import Ibc.Model.Error
import Ibc.Model.Path
import Ibc.Support.ProtoRead

/-!
# Merkle proofs

A value is proved through several stores, each inside the next one: the root of a store is a value
of the store around it. A proof has a part for each store, from the innermost one to the root, and
the root of each store is computed from its part of the proof.

The parts are checked by the ics23 library (`Ics23`). Of an existence proof, what only that library
reads stays in wire form (`ops`).
-/

namespace Ibc

open Proto

/-! ### Data -/

/-- How one store is proved, in wire form. -/
abbrev ProofSpec := Bytes

/-- A key, its value, and the way from them to the root. -/
structure ExistenceProof where
  key : Bytes
  value : Bytes
  ops : Bytes
deriving DecidableEq

/-- The neighbours of a key that is not there. -/
structure NonExistenceProof where
  key : Bytes
  left : Option ExistenceProof
  right : Option ExistenceProof
deriving DecidableEq

/-- The proofs of one store. -/
inductive Proof where
  | exist (proof : ExistenceProof)
  | nonexist (proof : NonExistenceProof)
  | batch (proof : Bytes)
  | compressed (proof : Bytes)
deriving DecidableEq

/-- The part of a proof for one store. -/
structure CommitmentProof where
  proof : Option Proof
deriving DecidableEq

/-- The parts, from the innermost store to the root. -/
structure MerkleProof where
  proofs : List CommitmentProof
deriving DecidableEq

/-- The functions of the ics23 library, on one store: what they are given is the proof, the spec,
the root, the key, and the value. -/
structure Ics23 where
  calculateExistenceRoot : ExistenceProof → Option Bytes
  verifyMembership : CommitmentProof → ProofSpec → Bytes → Bytes → Bytes → Bool
  verifyNonMembership : CommitmentProof → ProofSpec → Bytes → Bytes → Bool

/-! ### Key paths -/

/-- The prefix as text; one that is no UTF-8 is described. -/
def CommitmentPrefix.toText (pfx : CommitmentPrefix) : String :=
  match Codec.string.decode pfx.bytes with
  | some s => s
  | none => "<not valid UTF8: [" ++ ", ".intercalate (pfx.bytes.map toString) ++ "]>"

/-- The keys from the root to the leaf. -/
def applyPrefix (pfx : CommitmentPrefix) (path : List String) : List String := pfx.toText :: path

/-! ### Verification -/

/-- The root by one of the two neighbours. -/
def calculateNonExistenceRoot (ics : Ics23) (proof : NonExistenceProof) :
    Except CommitmentError Bytes :=
  match proof.left, proof.right with
  | some left, _ => Result.okOr (ics.calculateExistenceRoot left) .invalidMerkleProof
  | none, some right => Result.okOr (ics.calculateExistenceRoot right) .invalidMerkleProof
  | none, none => .error .invalidMerkleProof

namespace MerkleProof

/-- The loop over the stores: the root of a store is the value in the next one. The result is the
last root, `subroot` if there is no store. -/
def verifyLevels (ics : Ics23) :
    List ((CommitmentProof × ProofSpec) × String) → Bytes → Bytes → Except CommitmentError Bytes
  | [], subroot, _ => .ok subroot
  | ((proof, spec), key) :: levels, _, value =>
      match proof.proof with
      | some (.exist existenceProof) => do
          let subroot ← Result.okOr (ics.calculateExistenceRoot existenceProof) .invalidMerkleProof
          Result.ensure (ics.verifyMembership proof spec subroot (utf8 key) value = true)
            .verificationFailure
          verifyLevels ics levels subroot subroot
      | _ => .error .invalidMerkleProof

/-- The value is in the store at `startIndex`, and each store in the next one. -/
def verifyMembership (self : MerkleProof) (ics : Ics23) (specs : List ProofSpec) (root : Bytes)
    (keys : List String) (value : Bytes) (startIndex : ℕ) : Except CommitmentError Unit := do
  Result.ensure (self.proofs ≠ []) .emptyMerkleProof
  Result.ensure (root ≠ []) .emptyMerkleRoot
  Result.ensure (specs.length = self.proofs.length) .numberOfSpecsMismatch
  Result.ensure (keys.length = self.proofs.length) .numberOfKeysMismatch
  Result.ensure (value ≠ []) .emptyVerifiedValue
  -- The keys are given from the root to the leaf.
  let levels := ((self.proofs.zip specs).zip keys.reverse).drop startIndex
  let subroot ← verifyLevels ics levels value value
  Result.ensure (root = subroot) .verificationFailure

/-- The key is absent from the innermost store, whose root is a value in the others. -/
def verifyNonMembership (self : MerkleProof) (ics : Ics23) (specs : List ProofSpec) (root : Bytes)
    (keys : List String) : Except CommitmentError Unit := do
  Result.ensure (self.proofs ≠ []) .emptyMerkleProof
  Result.ensure (root ≠ []) .emptyMerkleRoot
  let num := self.proofs.length
  Result.ensure (specs.length = num) .numberOfSpecsMismatch
  Result.ensure (keys.length = num) .numberOfKeysMismatch
  let proof ← Result.okOr self.proofs[0]? .invalidMerkleProof
  let spec ← Result.okOr specs[0]? .invalidMerkleProof
  let key ← Result.okOr keys[num - 1]? .invalidMerkleProof
  match proof.proof with
  | some (.nonexist nonExistenceProof) => do
      let subroot ← calculateNonExistenceRoot ics nonExistenceProof
      Result.ensure (ics.verifyNonMembership proof spec subroot (utf8 key) = true)
        .verificationFailure
      self.verifyMembership ics specs root keys subroot 1
  | _ => .error .invalidMerkleProof

end MerkleProof

end Ibc
