import Ibc.Model.Merkle
import Mathlib.Logic.Relation
import Mathlib.Logic.Relator

/-!
# Chained Merkle proofs are binding

An accepted proof is a chain of values from the proved one to the root, each a value under the next
(`verifyMembership_linked`). Where a root binds the values of its store (`Ics23.Binding`), the chain
is determined from the root on, so a key path has one value under a root, and is not absent from it
(`merkle_binding`). A proof of absence is such a chain without its first link
(`verifyNonMembership_linked`).
-/

namespace Ibc

open Proto

/-! ### Chains of relations -/

/-- From the one value to the other, with one step of `R` for each element of the list. -/
def Linked {L V : Type} (R : L → V → V → Prop) : List L → V → V → Prop
  | [] => Eq
  | l :: ls => Relation.Comp (R l) (Linked R ls)

/-- Where each step determines what stands on its left, so does the chain. -/
theorem Linked.leftUnique {L V : Type} {R : L → V → V → Prop}
    (h : ∀ l, Relator.LeftUnique (R l)) (ls : List L) : Relator.LeftUnique (Linked R ls) := by
  induction ls with
  | nil =>
    rintro x y _ rfl rfl
    rfl
  | cons l ls ih =>
    -- The chains agree behind the first step, from the end on.
    rintro x y z ⟨a, hxa, haz⟩ ⟨b, hyb, hbz⟩
    obtain rfl := ih haz hbz
    exact h l hxa hyb

/-! ### Accepted proofs -/

variable {ics : Ics23} {specs : List ProofSpec} {root value : Bytes} {keys : List String}
  {proof : MerkleProof}

/-- The functions on one store are binding. -/
structure Ics23.Binding (ics : Ics23) : Prop where
  value_unique : ∀ {spec root key p v p' v'}, ics.verifyMembership p spec root key v = true →
    ics.verifyMembership p' spec root key v' = true → v = v'
  not_both : ∀ {spec root key p v p'}, ics.verifyMembership p spec root key v = true →
    ics.verifyNonMembership p' spec root key ≠ true

/-- The store of the root `y` is proved to hold `x` under the key of the level. -/
def Ics23.Commits (ics : Ics23) (level : ProofSpec × String) (x y : Bytes) : Prop :=
  ∃ p, ics.verifyMembership p level.1 y (utf8 level.2) x = true

theorem Ics23.Binding.leftUnique (h : ics.Binding) (level : ProofSpec × String) :
    Relator.LeftUnique (ics.Commits level) := by
  rintro x y z ⟨p, hp⟩ ⟨p', hp'⟩
  exact h.value_unique hp hp'

/-- An existence proof is accepted for the key it names. -/
def Ics23.ChecksKeys (ics : Ics23) : Prop :=
  ∀ {p spec root key value}, ics.verifyMembership ⟨some (.exist p)⟩ spec root key value = true →
    p.key = key

namespace MerkleProof

/-- The loop follows a chain. -/
theorem verifyLevels_linked {levels : List ((CommitmentProof × ProofSpec) × String)}
    {subroot value last : Bytes} (hsub : subroot = value)
    (h : verifyLevels ics levels subroot value = .ok last) :
    Linked ics.Commits (levels.map fun l => (l.1.2, l.2)) value last := by
  induction levels generalizing subroot value with
  | nil =>
    cases h
    exact hsub.symm
  | cons l levels ih =>
    obtain ⟨⟨p, spec⟩, key⟩ := l
    unfold verifyLevels at h
    split at h
    · obtain ⟨next, -, h⟩ := Result.bind_eq_ok.mp h
      obtain ⟨_, hp, h⟩ := Result.bind_eq_ok.mp h
      exact ⟨next, ⟨p, Result.ensure_eq_ok.mp hp⟩, ih rfl h⟩
    · cases h

/-- The levels of a proof are the specs with the keys from the leaf to the root. -/
theorem map_levels {proofs : List CommitmentProof} (hlen : specs.length = proofs.length) (k : ℕ) :
    (((proofs.zip specs).zip keys.reverse).drop k).map (fun l => (l.1.2, l.2)) =
      (specs.zip keys.reverse).drop k := by
  have hspecs : (proofs.zip specs).map Prod.snd = specs := List.map_snd_zip hlen.le
  have hzip : ((proofs.zip specs).map Prod.snd).zip keys.reverse =
      ((proofs.zip specs).zip keys.reverse).map (Prod.map Prod.snd id) := List.zip_map_left
  rw [hspecs] at hzip
  rw [hzip, List.map_drop]
  rfl

theorem verifyMembership_linked {k : ℕ}
    (h : proof.verifyMembership ics specs root keys value k = .ok ()) :
    Linked ics.Commits ((specs.zip keys.reverse).drop k) value root := by
  simp only [verifyMembership, Result.bind_eq_ok, Result.ensure_eq_ok] at h
  obtain ⟨_, _, _, _, _, hspecs, _, _, _, _, last, hlevels, rfl⟩ := h
  rw [← map_levels hspecs k]
  exact verifyLevels_linked rfl hlevels

/-- Absence is proved in the innermost store, and its root is chained to the root. -/
theorem verifyNonMembership_linked
    (h : proof.verifyNonMembership ics specs root keys = .ok ()) :
    ∃ spec key levels p subroot, specs.zip keys.reverse = (spec, key) :: levels ∧
      ics.verifyNonMembership p spec subroot (utf8 key) = true ∧
      Linked ics.Commits levels subroot root := by
  simp only [verifyNonMembership, Result.bind_eq_ok, Result.ensure_eq_ok, Result.okOr_eq_ok] at h
  obtain ⟨_, _, _, _, _, hspecs, _, hkeys, p, _, spec, hspec, key, hkey, h⟩ := h
  split at h
  · simp only [Result.bind_eq_ok, Result.ensure_eq_ok] at h
    obtain ⟨subroot, _, _, habsent, hmem⟩ := h
    have hlinked := verifyMembership_linked hmem
    obtain ⟨specs', rfl⟩ : ∃ specs', specs = spec :: specs' := by
      rw [← List.head?_eq_getElem?] at hspec
      exact List.head?_eq_some_iff.mp hspec
    obtain ⟨keys', hreverse⟩ : ∃ keys', keys.reverse = key :: keys' := by
      rw [← hkeys, ← List.getLast?_eq_getElem?, ← List.head?_reverse] at hkey
      exact List.head?_eq_some_iff.mp hkey
    rw [hreverse] at hlinked ⊢
    exact ⟨spec, key, _, p, subroot, rfl, habsent, hlinked⟩
  · cases h

/-- The stores around the innermost one are checked like those of a value. -/
theorem verifyMembership_of_verifyNonMembership
    (h : proof.verifyNonMembership ics specs root keys = .ok ()) :
    ∃ subroot, proof.verifyMembership ics specs root keys subroot 1 = .ok () := by
  simp only [verifyNonMembership, Result.bind_eq_ok] at h
  obtain ⟨_, _, _, _, _, _, _, _, p, _, spec, _, key, _, h⟩ := h
  split at h
  · simp only [Result.bind_eq_ok] at h
    obtain ⟨subroot, _, _, _, hmem⟩ := h
    exact ⟨subroot, hmem⟩
  · cases h

/-! ### The keys of a proof -/

/-- The key in an existence proof. -/
def keyOf (p : CommitmentProof) : Option Bytes :=
  match p.proof with
  | some (.exist e) => some e.key
  | _ => none

theorem verifyLevels_keys (hkeys : ics.ChecksKeys)
    {levels : List ((CommitmentProof × ProofSpec) × String)} {subroot value last : Bytes}
    (h : verifyLevels ics levels subroot value = .ok last) :
    levels.map (fun l => keyOf l.1.1) = levels.map fun l => some (utf8 l.2) := by
  induction levels generalizing subroot value with
  | nil => rfl
  | cons l levels ih =>
    obtain ⟨⟨⟨p⟩, spec⟩, key⟩ := l
    unfold verifyLevels at h
    split at h
    · next e he =>
      obtain ⟨next, -, hnext⟩ := Result.bind_eq_ok.mp h
      obtain ⟨_, hp, hrest⟩ := Result.bind_eq_ok.mp hnext
      obtain rfl : p = some (.exist e) := he
      have hkey := hkeys (Result.ensure_eq_ok.mp hp)
      rw [List.map_cons, List.map_cons, ih hrest]
      simp [keyOf, hkey]
    · cases h

/-- The parts that are checked name the keys, from the leaf to the root. -/
theorem keys_of_verifyMembership (hkeys : ics.ChecksKeys) {k : ℕ}
    (h : proof.verifyMembership ics specs root keys value k = .ok ()) :
    (proof.proofs.map keyOf).drop k = (keys.reverse.map fun key => some (utf8 key)).drop k := by
  simp only [verifyMembership, Result.bind_eq_ok, Result.ensure_eq_ok] at h
  obtain ⟨_, _, _, _, _, hspecs, _, hlen, _, _, last, hlevels, _⟩ := h
  have hmap := verifyLevels_keys hkeys hlevels
  rw [List.map_drop, List.map_drop] at hmap
  have hzip : (proof.proofs.zip specs).length = keys.reverse.length := by simp [hspecs, hlen]
  have hfst : ((proof.proofs.zip specs).zip keys.reverse).map Prod.fst = proof.proofs.zip specs :=
    List.map_fst_zip hzip.le
  have hsnd : ((proof.proofs.zip specs).zip keys.reverse).map Prod.snd = keys.reverse :=
    List.map_snd_zip hzip.ge
  have hproofs : (proof.proofs.zip specs).map Prod.fst = proof.proofs :=
    List.map_fst_zip hspecs.ge
  calc (proof.proofs.map keyOf).drop k
      = (((proof.proofs.zip specs).zip keys.reverse).map (fun l => keyOf l.1.1)).drop k := by
        conv_lhs => rw [← hproofs, ← hfst]
        simp only [List.map_map]
        rfl
    _ = (((proof.proofs.zip specs).zip keys.reverse).map (fun l => some (utf8 l.2))).drop k := hmap
    _ = (keys.reverse.map fun key => some (utf8 key)).drop k := by
        conv_rhs => rw [← hsnd]
        rw [List.map_map]
        rfl

/-- A proof is accepted at one key path. -/
theorem keys_eq_of_verifyMembership (hkeys : ics.ChecksKeys) {root' value' : Bytes}
    {keys' : List String} (h : proof.verifyMembership ics specs root keys value 0 = .ok ())
    (h' : proof.verifyMembership ics specs root' keys' value' 0 = .ok ()) : keys = keys' := by
  have hrev := (keys_of_verifyMembership hkeys h).symm.trans (keys_of_verifyMembership hkeys h')
  rw [List.drop_zero, List.drop_zero] at hrev
  have hinj : Function.Injective fun key : String => some (utf8 key) := fun _ _ h =>
    utf8_inj (Option.some.inj h)
  exact List.reverse_injective (List.map_injective_iff.mpr hinj hrev)

/-- A proof of a value is not one of absence: the innermost part of one has a key. -/
theorem not_verifyNonMembership (hkeys : ics.ChecksKeys) {root' : Bytes} {keys' : List String}
    (h : proof.verifyMembership ics specs root keys value 0 = .ok ()) :
    proof.verifyNonMembership ics specs root' keys' ≠ .ok () := by
  intro habsent
  have hall : ∀ k ∈ proof.proofs.map keyOf, k ≠ none := by
    have hmap := keys_of_verifyMembership hkeys h
    rw [List.drop_zero, List.drop_zero] at hmap
    simp [hmap]
  simp only [verifyNonMembership, Result.bind_eq_ok, Result.okOr_eq_ok] at habsent
  obtain ⟨_, _, _, _, _, _, _, _, p, hp, spec, _, key, _, hno⟩ := habsent
  refine hall _ (List.mem_map_of_mem (List.mem_of_getElem? hp)) ?_
  unfold keyOf
  split at hno
  · next hnonexist => rw [hnonexist]
  · cases hno

end MerkleProof

/-- Under one root, a key path has one value, and none if it is absent. -/
theorem merkle_binding (h : ics.Binding) :
    (∀ proof₁ proof₂ : MerkleProof, ∀ value₁ value₂,
      proof₁.verifyMembership ics specs root keys value₁ 0 = .ok () →
      proof₂.verifyMembership ics specs root keys value₂ 0 = .ok () → value₁ = value₂) ∧
    ¬ ∃ (proof₁ proof₂ : MerkleProof) (value₁ : Bytes),
      proof₁.verifyMembership ics specs root keys value₁ 0 = .ok () ∧
      proof₂.verifyNonMembership ics specs root keys = .ok () := by
  constructor
  · intro proof₁ proof₂ value₁ value₂ h₁ h₂
    exact Linked.leftUnique h.leftUnique _ (MerkleProof.verifyMembership_linked h₁)
      (MerkleProof.verifyMembership_linked h₂)
  · rintro ⟨proof₁, proof₂, value₁, h₁, h₂⟩
    obtain ⟨spec, key, levels, p, subroot, hlevels, habsent, hlinked⟩ :=
      MerkleProof.verifyNonMembership_linked h₂
    have hchain := MerkleProof.verifyMembership_linked h₁
    rw [List.drop_zero, hlevels] at hchain
    obtain ⟨next, ⟨p', hpresent⟩, hrest⟩ := hchain
    -- Both chains come to the same root of the innermost store.
    obtain rfl := Linked.leftUnique h.leftUnique _ hrest hlinked
    exact h.not_both hpresent habsent

/-! ### Stores of one entry -/

namespace OneEntry

/-- The root of a store of one entry: with operations that hash nothing, the entry itself. -/
def rootOf (key value : Bytes) : Bytes := delimited key ++ delimited value

theorem rootOf_inj {key value key' value' : Bytes} (h : rootOf key value = rootOf key' value') :
    key = key' ∧ value = value' := by
  obtain ⟨hkey, hvalue⟩ := delimited_append_inj h
  exact ⟨hkey, (delimited_append_inj (congrArg (· ++ []) hvalue)).1⟩

/-- The library on such stores. The one key is a neighbour of every other one. -/
def ics23 : Ics23 where
  calculateExistenceRoot proof := some (rootOf proof.key proof.value)
  verifyMembership proof _ r key value :=
    match proof.proof with
    | some (.exist p) => p.key = key ∧ p.value = value ∧ r = rootOf key value
    | _ => false
  verifyNonMembership proof _ r key :=
    match proof.proof with
    | some (.nonexist ⟨k, some p, none⟩) => k = key ∧ p.key ≠ key ∧ r = rootOf p.key p.value
    | some (.nonexist ⟨k, none, some p⟩) => k = key ∧ p.key ≠ key ∧ r = rootOf p.key p.value
    | _ => false

theorem root_of_member {p : CommitmentProof} {spec : ProofSpec} {r key value : Bytes}
    (h : ics23.verifyMembership p spec r key value = true) : r = rootOf key value := by
  dsimp only [ics23] at h
  split at h
  · exact (of_decide_eq_true h).2.2
  · cases h

theorem root_of_absent {p : CommitmentProof} {spec : ProofSpec} {r key : Bytes}
    (h : ics23.verifyNonMembership p spec r key = true) :
    ∃ key' value', key' ≠ key ∧ r = rootOf key' value' := by
  dsimp only [ics23] at h
  split at h
  · exact ⟨_, _, (of_decide_eq_true h).2⟩
  · exact ⟨_, _, (of_decide_eq_true h).2⟩
  · cases h

theorem ics23_binding : ics23.Binding where
  value_unique h h' := (rootOf_inj ((root_of_member h).symm.trans (root_of_member h'))).2
  not_both h h' := by
    obtain ⟨key', value', hne, hr⟩ := root_of_absent h'
    exact hne (rootOf_inj ((root_of_member h).symm.trans hr)).1.symm

/-- A value under a key and a prefix. -/
def proofs (key pfx : String) (value : Bytes) : MerkleProof :=
  ⟨[⟨some (.exist ⟨utf8 key, value, []⟩)⟩,
    ⟨some (.exist ⟨utf8 pfx, rootOf (utf8 key) value, []⟩)⟩]⟩

end OneEntry

/-- The value `[7]` under two keys, and no other. -/
theorem two_levels_binding :
    (OneEntry.proofs "key" "ibc" [7]).verifyMembership OneEntry.ics23 [[1], [2]]
        (OneEntry.rootOf (utf8 "ibc") (OneEntry.rootOf (utf8 "key") [7])) ["ibc", "key"] [7] 0 =
      .ok () ∧
    ∀ (proof : MerkleProof) (value : Bytes),
      proof.verifyMembership OneEntry.ics23 [[1], [2]]
        (OneEntry.rootOf (utf8 "ibc") (OneEntry.rootOf (utf8 "key") [7])) ["ibc", "key"] value 0 =
        .ok () → value = [7] := by
  have hproof : (OneEntry.proofs "key" "ibc" [7]).verifyMembership OneEntry.ics23 [[1], [2]]
      (OneEntry.rootOf (utf8 "ibc") (OneEntry.rootOf (utf8 "key") [7])) ["ibc", "key"] [7] 0 =
        .ok () := by decide +kernel
  refine ⟨hproof, fun proof value h => ?_⟩
  exact (merkle_binding OneEntry.ics23_binding).1 proof _ value [7] h hproof

end Ibc
