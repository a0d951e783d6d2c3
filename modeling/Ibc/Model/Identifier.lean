import Ibc.Support.Exec
import Ibc.Support.Numerals

/-!
# Identifiers

Clients, connections, ports and channels are named by strings. The strings an identifier can hold
are the ones its constructors let through; what every constructor guarantees is kept as a field
(`Wf`): the string is not empty and has no path separator. The generated identifiers
(`channel-7`, `connection-3`) are injective in their number, which is what freshness rests on.

Whether a character is alphanumeric is decided by tables outside this code base, so the checks take
that predicate as a parameter.
-/

namespace Ibc

variable (alnum : Char → Bool)

/-- Raw bytes. -/
abbrev Bytes := List UInt8

/-- Why a string is not an identifier. -/
inductive IdentifierError where
  | containSeparator (id : String)
  | invalidLength (id : String) (length min max : ℕ)
  | invalidCharacter (id : String)
  | invalidPrefix (pfx : String)
  | empty
deriving DecidableEq

/-- The text of the error. -/
def IdentifierError.toText : IdentifierError → String
  | .containSeparator id => "identifier `" ++ id ++ "` cannot contain separator '/'"
  | .invalidLength id length min max => "identifier `" ++ id ++ "` has invalid length `" ++
      toString length ++ "` must be between `" ++ toString min ++ "`-`" ++ toString max ++
      "` characters"
  | .invalidCharacter id => "identifier `" ++ id ++
      "` must only contain alphanumeric characters or `.`, `_`, `+`, `-`, `#`, - `[`, `]`, `<`, `>`"
  | .invalidPrefix pfx => "identifier prefix `" ++ pfx ++ "` is invalid"
  | .empty => "identifier cannot be empty"

/-! ### The checks on identifier strings -/

/-- The characters allowed besides the alphanumeric ones. -/
def validSpecialChars : List Char := ['.', '_', '+', '-', '#', '[', ']', '<', '>']

/-- An identifier is not empty, has no separator, and only allowed characters. -/
def validateIdentifierChars (id : String) : Except IdentifierError Unit :=
  if id = "" then .error .empty
  else if '/' ∈ id.toList then .error (.containSeparator id)
  else if id.toList.all (fun c => alnum c || validSpecialChars.contains c) then .ok ()
  else .error (.invalidCharacter id)

/-- The length in bytes is between `min` and `max`. -/
def validateIdentifierLength (id : String) (min max : ℕ) : Except IdentifierError Unit :=
  if id.utf8ByteSize < min ∨ max < id.utf8ByteSize then
    .error (.invalidLength id id.utf8ByteSize min max)
  else .ok ()

/-- A name that stays within the length bounds with the least and with the greatest counter. -/
def validatePrefixLength (pfx : String) (min max : ℕ) : Except IdentifierError Unit := do
  validateIdentifierLength (pfx ++ "-" ++ toString 0) min max
  validateIdentifierLength (pfx ++ "-" ++ toString (UInt64.size - 1)) min max

/-- A client type is a name to which any counter can be added. -/
def validateClientType (id : String) : Except IdentifierError Unit := do
  validateIdentifierChars alnum id
  validatePrefixLength id 9 64

/-- The check every identifier kind runs, with that kind's length bounds. -/
def validateIdentifier (min max : ℕ) (id : String) : Except IdentifierError Unit := do
  validateIdentifierChars alnum id
  validateIdentifierLength id min max

/-- The check of a client id. -/
def validateClientIdentifier := validateIdentifier alnum 9 64
/-- The check of a connection id. -/
def validateConnectionIdentifier := validateIdentifier alnum 10 64
/-- The check of a port id. -/
def validatePortIdentifier := validateIdentifier alnum 2 128
/-- The check of a channel id. -/
def validateChannelIdentifier := validateIdentifier alnum 8 64

/-- What every identifier guarantees of its string. -/
structure IdentifierWf (s : String) : Prop where
  nonempty : s ≠ ""
  noSeparator : '/' ∉ s.toList

theorem validateIdentifierChars_wf {alnum : Char → Bool} {s : String}
    (h : validateIdentifierChars alnum s = .ok ()) : IdentifierWf s := by
  unfold validateIdentifierChars at h
  split_ifs at h with h₁ h₂ h₃
  exact ⟨h₁, h₂⟩

theorem validateIdentifier_wf {alnum : Char → Bool} {min max : ℕ} {s : String}
    (h : validateIdentifier alnum min max s = .ok ()) : IdentifierWf s := by
  obtain ⟨_, h, _⟩ := Result.bind_eq_ok.mp h
  exact validateIdentifierChars_wf h

/-- A separator-free name with a counter is a well-formed identifier. -/
theorem identifierWf_counter {pfx : String} (h : '/' ∉ pfx.toList) (n : ℕ) :
    IdentifierWf (pfx ++ "-" ++ toString n) where
  nonempty := by
    intro he
    have := congrArg String.toList he
    simp at this
  noSeparator := by
    have hd := Numeral.notMem_toDigits (c := '/') (by decide) n
    simp [h, hd]

/-! ### The identifier kinds -/

/-- The kind of a light client. -/
structure ClientType where
  str : String
deriving DecidableEq

/-- The name of a client. -/
structure ClientId where
  str : String
  wf : IdentifierWf str
deriving DecidableEq

/-- The name of a connection. -/
structure ConnectionId where
  str : String
  wf : IdentifierWf str
deriving DecidableEq

/-- The name of a port. -/
structure PortId where
  str : String
  wf : IdentifierWf str
deriving DecidableEq

/-- The name of a channel. -/
structure ChannelId where
  str : String
  wf : IdentifierWf str
deriving DecidableEq

/-- The name of an application module. -/
structure ModuleId where
  str : String
deriving DecidableEq

/-- The account that signed a message. -/
structure Signer where
  str : String
deriving DecidableEq

/-- The characters with the Unicode property `White_Space`. -/
def isWhiteSpace (c : Char) : Bool :=
  [0x20, 0x85, 0xA0, 0x1680, 0x2028, 0x2029, 0x202F, 0x205F, 0x3000].contains c.toNat ||
    (9 ≤ c.toNat && c.toNat ≤ 13) || (0x2000 ≤ c.toNat && c.toNat ≤ 0x200A)

/-- A string without the white space around it. -/
def trim (s : String) : String :=
  String.ofList (((s.toList.dropWhile isWhiteSpace).reverse.dropWhile isWhiteSpace).reverse)

/-- An identifier that is built from a check is built when the check passes. -/
theorem checked_eq_ok {α : Type} {check : Except IdentifierError Unit} {mk : check = .ok () → α}
    {a : α} :
    (match h : check with
      | .ok () => (.ok (mk h) : Except IdentifierError α)
      | .error e => .error e) = .ok a ↔ ∃ h, mk h = a := by
  cases check with
  | ok _ => simp
  | error _ => simp

namespace ClientId

theorem str_inj {a b : ClientId} : a.str = b.str ↔ a = b := by
  cases a
  cases b
  simp

/-- A checked client id. -/
def fromStr (s : String) : Except IdentifierError ClientId :=
  match h : validateClientIdentifier alnum s with
  | .ok () => .ok ⟨s, validateIdentifier_wf h⟩
  | .error e => .error e

theorem fromStr_eq_ok {alnum : Char → Bool} {s : String} {id : ClientId} :
    fromStr alnum s = .ok id ↔ id.str = s ∧ validateClientIdentifier alnum s = .ok () := by
  refine checked_eq_ok.trans ⟨?_, ?_⟩
  · rintro ⟨hv, rfl⟩
    exact ⟨rfl, hv⟩
  · rintro ⟨rfl, hv⟩
    exact ⟨hv, rfl⟩

/-- The identifier of the `counter`-th client, of type `clientType`. -/
def new (clientType : ClientType) (counter : ℕ) : Except IdentifierError ClientId := do
  validateClientType alnum (trim clientType.str)
  fromStr alnum (trim clientType.str ++ "-" ++ toString counter)

theorem new_eq_ok {alnum : Char → Bool} {t : ClientType} {n : ℕ} {id : ClientId} :
    ClientId.new alnum t n = .ok id ↔ validateClientType alnum (trim t.str) = .ok () ∧
      id.str = trim t.str ++ "-" ++ toString n ∧
        validateClientIdentifier alnum (trim t.str ++ "-" ++ toString n) = .ok () := by
  rw [← fromStr_eq_ok]
  constructor
  · intro h
    obtain ⟨⟨⟩, htype, hid⟩ := Result.bind_eq_ok.mp h
    exact ⟨htype, hid⟩
  · rintro ⟨htype, hid⟩
    exact Result.bind_eq_ok.mpr ⟨(), htype, hid⟩

end ClientId

namespace ConnectionId

theorem str_inj {a b : ConnectionId} : a.str = b.str ↔ a = b := by
  cases a
  cases b
  simp

/-- The identifier of the `n`-th connection. -/
def new (n : ℕ) : ConnectionId :=
  ⟨"connection" ++ "-" ++ toString n, identifierWf_counter (by decide) n⟩

theorem new_inj {m n : ℕ} : new m = new n ↔ m = n := by
  rw [← str_inj, new, new, String.append_right_inj, Numeral.toString_injective.eq_iff]

/-- A checked connection id. -/
def fromStr (s : String) : Except IdentifierError ConnectionId :=
  match h : validateConnectionIdentifier alnum s with
  | .ok () => .ok ⟨s, validateIdentifier_wf h⟩
  | .error e => .error e

theorem fromStr_eq_ok {alnum : Char → Bool} {s : String} {id : ConnectionId} :
    fromStr alnum s = .ok id ↔ id.str = s ∧ validateConnectionIdentifier alnum s = .ok () := by
  refine checked_eq_ok.trans ⟨?_, ?_⟩
  · rintro ⟨hv, rfl⟩
    exact ⟨rfl, hv⟩
  · rintro ⟨rfl, hv⟩
    exact ⟨hv, rfl⟩

end ConnectionId

namespace PortId

theorem str_inj {a b : PortId} : a.str = b.str ↔ a = b := by
  cases a
  cases b
  simp

/-- A checked port id. -/
def fromStr (s : String) : Except IdentifierError PortId :=
  match h : validatePortIdentifier alnum s with
  | .ok () => .ok ⟨s, validateIdentifier_wf h⟩
  | .error e => .error e

theorem fromStr_eq_ok {alnum : Char → Bool} {s : String} {id : PortId} :
    fromStr alnum s = .ok id ↔ id.str = s ∧ validatePortIdentifier alnum s = .ok () := by
  refine checked_eq_ok.trans ⟨?_, ?_⟩
  · rintro ⟨hv, rfl⟩
    exact ⟨rfl, hv⟩
  · rintro ⟨rfl, hv⟩
    exact ⟨hv, rfl⟩

/-- The port of the token transfer application. -/
def transfer : PortId := ⟨"transfer", by decide, by decide⟩

end PortId

namespace ChannelId

theorem str_inj {a b : ChannelId} : a.str = b.str ↔ a = b := by
  cases a
  cases b
  simp

/-- A checked channel id. -/
def fromStr (s : String) : Except IdentifierError ChannelId :=
  match h : validateChannelIdentifier alnum s with
  | .ok () => .ok ⟨s, validateIdentifier_wf h⟩
  | .error e => .error e

theorem fromStr_eq_ok {alnum : Char → Bool} {s : String} {id : ChannelId} :
    fromStr alnum s = .ok id ↔ id.str = s ∧ validateChannelIdentifier alnum s = .ok () := by
  refine checked_eq_ok.trans ⟨?_, ?_⟩
  · rintro ⟨hv, rfl⟩
    exact ⟨rfl, hv⟩
  · rintro ⟨rfl, hv⟩
    exact ⟨hv, rfl⟩

/-- The identifier of the `n`-th channel. -/
def new (n : ℕ) : ChannelId :=
  ⟨"channel" ++ "-" ++ toString n, identifierWf_counter (by decide) n⟩

theorem new_inj {m n : ℕ} : new m = new n ↔ m = n := by
  rw [← str_inj, new, new, String.append_right_inj, Numeral.toString_injective.eq_iff]

end ChannelId

/-! ### Chain identifiers -/

/-- A chain identifier with the revision number it ends in. -/
structure ChainId where
  id : String
  revisionNumber : ℕ
deriving DecidableEq

/-- The texts before and after the last occurrence of `c`. -/
def rsplitOnce (s : String) (c : Char) : Option (String × String) :=
  match s.toList.reverse.dropWhile (· ≠ c) with
  | [] => none
  | _ :: before => some (String.ofList before.reverse,
      String.ofList (s.toList.reverse.takeWhile (· ≠ c)).reverse)

/-- A 64-bit number in decimal, with an optional plus sign. -/
def parseU64 (s : String) : Option ℕ :=
  let digits := match s.toList with
    | '+' :: rest => rest
    | cs => cs
  if digits = [] ∨ ¬ digits.all Char.isDigit then none
  else
    let n := Nat.ofDigitChars 10 digits 0
    if n < UInt64.size then some n else none

namespace ChainId

/-- The chain name and the revision number of a string of the form `name-revision`. -/
def parse (s : String) : Except IdentifierError (String × ℕ) := do
  let (name, revision) ← Result.okOr (rsplitOnce s '-') (.invalidCharacter s)
  validateIdentifierChars alnum name
  if revision.toList.head? = some '0' ∧ 1 < revision.utf8ByteSize then
    .error (.invalidCharacter s)
  else
    let n ← Result.okOr (parseU64 revision) (.invalidCharacter s)
    pure (name, n)

/-- The identifier of a name, which is trimmed and must not be too long, and a revision number. -/
def new (name : String) (revisionNumber : ℕ) : Except IdentifierError ChainId := do
  validateIdentifierChars alnum (trim name)
  validateIdentifierLength (trim name) 1 43
  pure ⟨trim name ++ "-" ++ toString revisionNumber, revisionNumber⟩

/-- The identifier is kept as it is given. -/
def fromStr (s : String) : Except IdentifierError ChainId := do
  let (_, revisionNumber) ← parse alnum s
  pure ⟨s, revisionNumber⟩

/-- The name and the revision number in the identifier, which must parse. -/
def splitChainId {ε : Type} (c : ChainId) : Result ε (String × ℕ) :=
  match parse alnum c.id with
  | .ok parts => .ok parts
  | .error _ => .error (.panic .expect)

/-- The name in the identifier. Splitting an identifier that does not parse panics. -/
def chainName {ε : Type} (c : ChainId) : Result ε String :=
  match parse alnum c.id with
  | .ok (name, _) => .ok name
  | .error _ => .error (.panic .expect)

/-- The identifier with another revision number. -/
def setRevisionNumber {ε : Type} (c : ChainId) (revisionNumber : ℕ) : Result ε ChainId := do
  let name ← c.chainName alnum
  pure ⟨name ++ "-" ++ toString revisionNumber, revisionNumber⟩

/-- The bounds are those of the name with any counter. -/
def validateLength (c : ChainId) (min max : ℕ) : Result IdentifierError Unit := do
  let name ← c.chainName alnum
  Result.ofExcept (·) (validatePrefixLength name min max)

end ChainId

end Ibc
