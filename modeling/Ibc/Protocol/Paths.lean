import Ibc.Model.Path
import Ibc.Support.Numerals
import Ibc.Support.Proto

/-!
# Store paths are unambiguous

The text of a path is its components joined by slashes (`toText_eq_join`), and no component holds a
slash: identifiers do not, and numbers are digits. So cutting the text gives the components back
(`split_toText`). The components of a path are read by the parser of its kind, and by no parser that
is tried before (`fromStr_toText`). So a text is the text of one path at most
(`toText_unambiguous`).
-/

namespace Ibc

/-! ### Numbers -/

/-- A 64-bit number is read back from its digits. -/
theorem parseU64_toString {n : ℕ} (hn : n < UInt64.size) : parseU64 (toString n) = some n := by
  have hplus := Numeral.notMem_toDigits (c := '+') (by decide) n
  have hall : ∀ c ∈ Nat.toDigits 10 n, c.isDigit = true := fun _ => Numeral.isDigit_of_mem_toDigits
  have hvalue : Nat.ofDigitChars 10 (Nat.toDigits 10 n) 0 = n := Nat.ofDigitChars_ten_toDigits
  have hlist : (toString n).toList = Nat.toDigits 10 n := by simp
  unfold parseU64
  rw [hlist]
  cases hdigits : Nat.toDigits 10 n with
  | nil => exact absurd hdigits Nat.toDigits_ne_nil
  | cons c cs =>
    rw [hdigits] at hplus hall hvalue
    -- A numeral does not start with a sign.
    have hc : c ≠ '+' := fun h => hplus (h ▸ List.mem_cons_self)
    have hdigit : (c :: cs).all Char.isDigit = true := List.all_eq_true.mpr hall
    simp [hc, hdigit, hvalue, hn]

/-- What is read as a number: digits, with or without a plus sign. -/
theorem digits_of_parseU64 {s : String} {n : ℕ} (h : parseU64 s = some n) :
    ∃ c cs, (∀ d ∈ c :: cs, d.isDigit) ∧ n = Nat.ofDigitChars 10 (c :: cs) 0 ∧
      (s.toList = c :: cs ∨ s.toList = '+' :: c :: cs) := by
  -- The digits behind the sign, if there is one.
  have hread {digits : List Char} (hdigits : (if digits = [] ∨ ¬ digits.all Char.isDigit then none
      else if Nat.ofDigitChars 10 digits 0 < UInt64.size then some (Nat.ofDigitChars 10 digits 0)
      else none) = some n) :
      ∃ c cs, digits = c :: cs ∧ (∀ d ∈ c :: cs, d.isDigit) ∧
        n = Nat.ofDigitChars 10 (c :: cs) 0 := by
    split_ifs at hdigits with hbad hn
    obtain ⟨hne, hall⟩ := not_or.mp hbad
    obtain ⟨c, cs, rfl⟩ := List.exists_cons_of_ne_nil hne
    exact ⟨c, cs, rfl, List.all_eq_true.mp (not_not.mp hall), (Option.some.inj hdigits).symm⟩
  obtain ⟨c, cs, hdigits, hall, hn⟩ := hread h
  refine ⟨c, cs, hall, hn, ?_⟩
  split at hdigits
  · next hs => exact .inr (hdigits ▸ hs)
  · exact .inl hdigits

/-- A numeral as numbers are written: without a sign, and without zeros in front. -/
def CanonicalNumeral (s : String) : Prop :=
  s.toList.head? ≠ some '+' ∧ (s.toList.head? = some '0' → s = "0")

/-- A text that is read as a number is the one written for it just when it is canonical. -/
theorem toString_eq_iff_canonical {s : String} {n : ℕ} (h : parseU64 s = some n) :
    toString n = s ↔ CanonicalNumeral s := by
  obtain ⟨c, cs, hdigits, rfl, hs⟩ := digits_of_parseU64 h
  rw [← String.toList_inj, Nat.toString_eq_repr, Nat.toList_repr]
  rcases hs with hs | hs
  · have hplus : c ≠ '+' := by
      rintro rfl
      exact absurd (hdigits '+' List.mem_cons_self) (by decide)
    have hzero : s = "0" ↔ c = '0' ∧ cs = [] := by
      rw [← String.toList_inj, hs]
      exact List.cons_eq_cons
    rw [hs, Numeral.toDigits_ofDigitChars hdigits, CanonicalNumeral, hs, hzero]
    simp +contextual [hplus]
  · refine iff_of_false (fun heq => ?_) fun hcanon => hcanon.1 (by simp [hs])
    have hmem : '+' ∈ Nat.toDigits 10 (Nat.ofDigitChars 10 (c :: cs) 0) := by simp [heq, hs]
    exact Numeral.notMem_toDigits (by decide) _ hmem

namespace Path

variable {alnum : Char → Bool} {p q : Path}

/-- The identifiers of the path are ones that their constructors let through, and its numbers are
64-bit words. -/
def Valid (alnum : Char → Bool) : Path → Prop
  | .clientState id => validateClientIdentifier alnum id.str = .ok ()
  | .clientConsensusState id height => validateClientIdentifier alnum id.str = .ok () ∧
      height.revisionNumber < UInt64.size ∧ height.revisionHeight < UInt64.size
  | .clientConnection id => validateClientIdentifier alnum id.str = .ok ()
  | .connection id => validateConnectionIdentifier alnum id.str = .ok ()
  | .ports port => validatePortIdentifier alnum port.str = .ok ()
  | .channelEnd port channel | .seqSend port channel | .seqRecv port channel
  | .seqAck port channel => validatePortIdentifier alnum port.str = .ok () ∧
      validateChannelIdentifier alnum channel.str = .ok ()
  | .commitment port channel sequence | .ack port channel sequence
  | .receipt port channel sequence => validatePortIdentifier alnum port.str = .ok () ∧
      validateChannelIdentifier alnum channel.str = .ok () ∧ sequence < UInt64.size
  | .upgradedClientState height | .upgradedClientConsensusState height => height < UInt64.size

/-! ### The components of a path -/

/-- The epoch and the height of a consensus state, as a path names them. -/
def epochHeight (height : Height) : String :=
  toString height.revisionNumber ++ "-" ++ toString height.revisionHeight

/-- What stands between the slashes of the text. -/
def components : Path → List String
  | .clientState id => ["clients", id.str, "clientState"]
  | .clientConsensusState id height => ["clients", id.str, "consensusStates", epochHeight height]
  | .clientConnection id => ["clients", id.str, "connections"]
  | .connection id => ["connections", id.str]
  | .ports port => ["ports", port.str]
  | .channelEnd port channel => ["channelEnds", "ports", port.str, "channels", channel.str]
  | .seqSend port channel => ["nextSequenceSend", "ports", port.str, "channels", channel.str]
  | .seqRecv port channel => ["nextSequenceRecv", "ports", port.str, "channels", channel.str]
  | .seqAck port channel => ["nextSequenceAck", "ports", port.str, "channels", channel.str]
  | .commitment port channel sequence =>
      ["commitments", "ports", port.str, "channels", channel.str, "sequences", toString sequence]
  | .ack port channel sequence =>
      ["acks", "ports", port.str, "channels", channel.str, "sequences", toString sequence]
  | .receipt port channel sequence =>
      ["receipts", "ports", port.str, "channels", channel.str, "sequences", toString sequence]
  | .upgradedClientState height => [upgradedIbcState, toString height, upgradedClient]
  | .upgradedClientConsensusState height => [upgradedIbcState, toString height, upgradedConsState]

theorem toText_eq_join : p.toText = Text.join '/' p.components := by
  apply String.toList_inj.mp
  cases p <;>
    simp [toText, components, Text.toList_join, channelText, packetText, epochHeight,
      upgradedIbcState, upgradedClient, upgradedConsState]

theorem components_ne_nil : p.components ≠ [] := by
  cases p <;> exact List.cons_ne_nil _ _

/-- No component holds a slash. -/
theorem slash_notMem_components : ∀ s ∈ p.components, '/' ∉ s.toList := by
  have hnum := Numeral.notMem_toDigits (c := '/') (by decide)
  cases p with
  | clientState id | clientConnection id => simp [components, id.wf.noSeparator]
  | clientConsensusState id height => simp [components, epochHeight, id.wf.noSeparator, hnum]
  | connection id => simp [components, id.wf.noSeparator]
  | ports port => simp [components, port.wf.noSeparator]
  | channelEnd port channel | seqSend port channel | seqRecv port channel | seqAck port channel =>
    simp [components, port.wf.noSeparator, channel.wf.noSeparator]
  | commitment port channel sequence | ack port channel sequence | receipt port channel sequence =>
    simp [components, port.wf.noSeparator, channel.wf.noSeparator, hnum]
  | upgradedClientState height | upgradedClientConsensusState height =>
    simp [components, upgradedIbcState, upgradedClient, upgradedConsState, hnum]

theorem split_toText : Text.split '/' p.toText = p.components := by
  rw [toText_eq_join, Text.split_join slash_notMem_components components_ne_nil]

/-! ### Reading a path back -/

theorem parseConnections_str {id : ConnectionId}
    (h : validateConnectionIdentifier alnum id.str = .ok ()) :
    parseConnections alnum ["connections", id.str] = some (.connection id) := by
  have hid := ConnectionId.fromStr_eq_ok.mpr ⟨rfl, h⟩
  simp [parseConnections, parsePair, hid, Except.toOption]

theorem parsePort_str {port : PortId} (h : validatePortIdentifier alnum port.str = .ok ()) :
    parsePort alnum ["ports", port.str] = some port := by
  have hid := PortId.fromStr_eq_ok.mpr ⟨rfl, h⟩
  simp [parsePort, parsePair, hid, Except.toOption]

theorem parseChannels_str {channel : ChannelId}
    (h : validateChannelIdentifier alnum channel.str = .ok ()) :
    parseChannels alnum ["channels", channel.str] = some channel := by
  have hid := ChannelId.fromStr_eq_ok.mpr ⟨rfl, h⟩
  simp [parseChannels, parsePair, hid, Except.toOption]

theorem parseSequences_toString {sequence : Sequence} (h : sequence < UInt64.size) :
    parseSequences ["sequences", toString sequence] = some sequence := by
  rw [parseSequences, parsePair, if_pos rfl, parseU64_toString h]

theorem epochHeight_eq_join (height : Height) : epochHeight height =
    Text.join '-' [toString height.revisionNumber, toString height.revisionHeight] := by
  apply String.toList_inj.mp
  simp [epochHeight, Text.toList_join]

theorem split_epochHeight (height : Height) : Text.split '-' (epochHeight height) =
    [toString height.revisionNumber, toString height.revisionHeight] := by
  have hnum := Numeral.notMem_toDigits (c := '-') (by decide)
  rw [epochHeight_eq_join, Text.split_join (by simp [hnum]) (List.cons_ne_nil _ _)]

theorem parseEpochHeight_epochHeight {height : Height} (hn : height.revisionNumber < UInt64.size)
    (hh : height.revisionHeight < UInt64.size) :
    parseEpochHeight (epochHeight height) = some height := by
  rw [parseEpochHeight, split_epochHeight]
  dsimp only
  rw [parseU64_toString hn, parseU64_toString hh]
  rfl

/-- The first parser reads the paths of a client. -/
theorem parseClientPaths_cons {ε : Type} {id : ClientId} {rest : List String}
    (h : validateClientIdentifier alnum id.str = .ok ()) :
    parseClientPaths (ε := ε) alnum ("clients" :: id.str :: rest) =
      .ok (parseClientPath id rest) := by
  have hid := ClientId.fromStr_eq_ok.mpr ⟨rfl, h⟩
  simp [parseClientPaths, Result.index, hid]

theorem parseClientPaths_of_ne {ε : Type} {first : String} {rest : List String}
    (h : first ≠ "clients") : parseClientPaths (ε := ε) alnum (first :: rest) = .ok none := by
  simp [parseClientPaths, h]

/-- A path that is not one of a client is left to the other parsers. -/
theorem fromStr_of_parseOthers {first : String} {rest : List String}
    (hp : p.components = first :: rest) (hfirst : first ≠ "clients")
    (h : parseOthers alnum (first :: rest) = some p) : fromStr alnum p.toText = .ok p := by
  simp [fromStr, split_toText, hp, parseClientPaths_of_ne hfirst, h]

theorem parsePair_of_length {α : Type} {name : String} {parse : String → Option α}
    {l : List String} (h : l.length ≠ 2) : parsePair name parse l = none := by
  unfold parsePair
  split
  · exact absurd rfl h
  · rfl

theorem parseConnections_of_length {l : List String} (h : l.length ≠ 2) :
    parseConnections alnum l = none := by
  rw [parseConnections, parsePair_of_length h, Option.map_none]

theorem parsePorts_of_length {l : List String} (h : l.length ≠ 2) :
    parsePorts alnum l = none := by
  rw [parsePorts, parsePort, parsePair_of_length h, Option.map_none]

/-- The paths below a channel: the first two parsers look at their length. -/
theorem parseOthers_channel {kind : String} {port : PortId} {channel : ChannelId}
    (hport : validatePortIdentifier alnum port.str = .ok ())
    (hchannel : validateChannelIdentifier alnum channel.str = .ok ()) :
    parseOthers alnum [kind, "ports", port.str, "channels", channel.str] =
      if kind = "channelEnds" then some (.channelEnd port channel)
      else if kind = "nextSequenceSend" then some (.seqSend port channel)
      else if kind = "nextSequenceRecv" then some (.seqRecv port channel)
      else if kind = "nextSequenceAck" then some (.seqAck port channel)
      else none := by
  rw [parseOthers, parseConnections_of_length (by simp), parsePorts_of_length (by simp)]
  simp only [parseChannelEnds, parseSeqs, parsePort_str hport, parseChannels_str hchannel]
  by_cases hkind : kind = "channelEnds"
  · simp [hkind]
  · simp [hkind, parseCommitments, parseAcks, parseReceipts, parsePacketPath, parseUpgrades]

/-- The paths of a packet. -/
theorem parseOthers_packet {kind : String} {port : PortId} {channel : ChannelId}
    {sequence : Sequence} (hport : validatePortIdentifier alnum port.str = .ok ())
    (hchannel : validateChannelIdentifier alnum channel.str = .ok ())
    (hsequence : sequence < UInt64.size) :
    parseOthers alnum
        [kind, "ports", port.str, "channels", channel.str, "sequences", toString sequence] =
      if kind = "commitments" then some (.commitment port channel sequence)
      else if kind = "acks" then some (.ack port channel sequence)
      else if kind = "receipts" then some (.receipt port channel sequence)
      else none := by
  rw [parseOthers, parseConnections_of_length (by simp), parsePorts_of_length (by simp)]
  simp only [parseChannelEnds, parseSeqs, parseCommitments, parseAcks, parseReceipts,
    parsePacketPath, parseUpgrades, parsePort_str hport, parseChannels_str hchannel,
    parseSequences_toString hsequence]
  by_cases hcommitment : kind = "commitments"
  · simp [hcommitment]
  by_cases hack : kind = "acks"
  · simp [hack]
  · simp [hcommitment, hack]

/-- The paths of an upgrade. -/
theorem parseOthers_upgrade {height : ℕ} (hheight : height < UInt64.size) (last : String) :
    parseOthers alnum [upgradedIbcState, toString height, last] =
      if last = upgradedClient then some (.upgradedClientState height)
      else if last = upgradedConsState then some (.upgradedClientConsensusState height)
      else none := by
  rw [parseOthers, parseConnections_of_length (by simp), parsePorts_of_length (by simp)]
  simp only [parseChannelEnds, parseSeqs, parseCommitments, parseAcks, parseReceipts,
    parsePacketPath, parseUpgrades, parseU64_toString hheight]
  simp

/-- A path is read back from its text. -/
theorem fromStr_toText (h : p.Valid alnum) : fromStr alnum p.toText = .ok p := by
  cases p with
  | clientState id | clientConnection id =>
    rw [fromStr, split_toText, components, parseClientPaths_cons h]
    rfl
  | clientConsensusState id height =>
    obtain ⟨hid, hn, hh⟩ := h
    have hpath : parseClientPath id ["consensusStates", epochHeight height] =
        some (.clientConsensusState id height) := by
      simp [parseClientPath, parseEpochHeight_epochHeight hn hh]
    simp [fromStr, split_toText, components, parseClientPaths_cons hid, hpath]
  | connection id =>
    refine fromStr_of_parseOthers rfl (by decide) ?_
    rw [parseOthers, parseConnections_str h, Option.some_or]
  | ports port =>
    refine fromStr_of_parseOthers rfl (by decide) ?_
    have hconn : parseConnections alnum ["ports", port.str] = none := by
      simp [parseConnections, parsePair]
    rw [parseOthers, hconn, parsePorts, parsePort_str h]
    rfl
  | channelEnd port channel | seqSend port channel | seqRecv port channel | seqAck port channel =>
    refine fromStr_of_parseOthers rfl (by decide) ?_
    rw [parseOthers_channel h.1 h.2]
    simp
  | commitment port channel sequence | ack port channel sequence | receipt port channel sequence =>
    refine fromStr_of_parseOthers rfl (by decide) ?_
    rw [parseOthers_packet h.1 h.2.1 h.2.2]
    simp
  | upgradedClientState height =>
    refine fromStr_of_parseOthers rfl (by decide) ?_
    rw [parseOthers_upgrade h, if_pos rfl]
  | upgradedClientConsensusState height =>
    refine fromStr_of_parseOthers rfl (by decide) ?_
    rw [parseOthers_upgrade h, if_neg (by decide), if_pos rfl]

end Path

/-- The text of a path is read back as the path. So two paths of the store have different texts, and
different keys. -/
theorem toText_unambiguous {alnum : Char → Bool} {p : Path} (hp : p.Valid alnum) :
    Path.fromStr alnum p.toText = .ok p ∧
      ∀ q : Path, q.Valid alnum → (p.toText = q.toText → p = q) ∧
        (p.intoBytes = q.intoBytes → p = q) := by
  have hread := Path.fromStr_toText hp
  have hinj : ∀ q : Path, q.Valid alnum → p.toText = q.toText → p = q := by
    intro q hq htext
    have hread' := Path.fromStr_toText hq
    rw [htext, hread'] at hread
    cases hread
    rfl
  exact ⟨hread, fun q hq => ⟨hinj q hq, fun hbytes => hinj q hq (Proto.utf8_inj hbytes)⟩⟩

/-- The path of a commitment, read back. -/
theorem commitment_path_read_back :
    Path.fromStr Char.isAlphanum "commitments/ports/transfer/channels/channel-0/sequences/18" =
      .ok (.commitment .transfer (.new 0) 18) := by
  have hvalid : (Path.commitment .transfer (.new 0) 18).Valid Char.isAlphanum :=
    ⟨by rfl, by rfl, by decide⟩
  have htext : (Path.commitment .transfer (.new 0) 18).toText =
      "commitments/ports/transfer/channels/channel-0/sequences/18" := by
    apply String.toList_inj.mp
    rfl
  rw [← htext]
  exact (toText_unambiguous hvalid).1

end Ibc
