import Ibc.Protocol.Paths

/-!
# One text for each path

Reading a path and writing it again should give the text that was read, and reading should end on
every text. An accepted text has the components of the path it stands for, up to the spelling of
its numbers (`fromStr_spells`): a number is also read with a plus sign or with zeros in front. The
one text that does not get a result is `clients`.
-/

namespace Ibc

open Result (Returns)

namespace Path

variable {alnum : Char → Bool} {p : Path} {l : List String}

/-- The components of a path, with its numbers in any spelling that is read. -/
def Spells : Path → List String → Prop
  | .clientConsensusState id height, l => ∃ last epoch number,
      l = ["clients", id.str, "consensusStates", last] ∧ Text.split '-' last = [epoch, number] ∧
        parseU64 epoch = some height.revisionNumber ∧ parseU64 number = some height.revisionHeight
  | .commitment port channel sequence, l => ∃ number,
      l = ["commitments", "ports", port.str, "channels", channel.str, "sequences", number] ∧
        parseU64 number = some sequence
  | .ack port channel sequence, l => ∃ number,
      l = ["acks", "ports", port.str, "channels", channel.str, "sequences", number] ∧
        parseU64 number = some sequence
  | .receipt port channel sequence, l => ∃ number,
      l = ["receipts", "ports", port.str, "channels", channel.str, "sequences", number] ∧
        parseU64 number = some sequence
  | .upgradedClientState height, l => ∃ number,
      l = [upgradedIbcState, number, upgradedClient] ∧ parseU64 number = some height
  | .upgradedClientConsensusState height, l => ∃ number,
      l = [upgradedIbcState, number, upgradedConsState] ∧ parseU64 number = some height
  | p, l => l = p.components

/-! ### What the parsers accept -/

theorem parsePair_eq_some {α : Type} {name : String} {parse : String → Option α} {a : α} :
    parsePair name parse l = some a ↔ ∃ s, l = [name, s] ∧ parse s = some a := by
  constructor
  · intro h
    unfold parsePair at h
    split at h
    · next first last =>
      split_ifs at h with hname
      exact ⟨last, by rw [hname], h⟩
    · cases h
  · rintro ⟨s, rfl, h⟩
    rw [parsePair, if_pos rfl, h]

/-- A parsed identifier is the text it was parsed from. -/
theorem eq_of_parsePort {port : PortId} (h : parsePort alnum l = some port) :
    l = ["ports", port.str] := by
  obtain ⟨s, rfl, hs⟩ := parsePair_eq_some.mp h
  rw [(PortId.fromStr_eq_ok.mp (Result.toOption_eq_some.mp hs)).1]

theorem eq_of_parseChannels {channel : ChannelId} (h : parseChannels alnum l = some channel) :
    l = ["channels", channel.str] := by
  obtain ⟨s, rfl, hs⟩ := parsePair_eq_some.mp h
  rw [(ChannelId.fromStr_eq_ok.mp (Result.toOption_eq_some.mp hs)).1]

theorem spells_of_parseConnections (h : parseConnections alnum l = some p) : p.Spells l := by
  obtain ⟨id, hid, rfl⟩ := Option.map_eq_some_iff.mp h
  obtain ⟨s, rfl, hs⟩ := parsePair_eq_some.mp hid
  rw [← (ConnectionId.fromStr_eq_ok.mp (Result.toOption_eq_some.mp hs)).1]
  rfl

theorem spells_of_parsePorts (h : parsePorts alnum l = some p) : p.Spells l := by
  obtain ⟨port, hport, rfl⟩ := Option.map_eq_some_iff.mp h
  exact eq_of_parsePort hport

theorem spells_of_parseChannelEnds (h : parseChannelEnds alnum l = some p) : p.Spells l := by
  unfold parseChannelEnds at h
  split at h
  · split_ifs at h with hfirst
    simp only [Option.bind_eq_bind, Option.bind_eq_some_iff, Option.some.injEq] at h
    obtain ⟨port, hport, channel, hchannel, rfl⟩ := h
    obtain ⟨rfl, rfl⟩ := List.pair_inj (eq_of_parsePort hport)
    obtain ⟨rfl, rfl⟩ := List.pair_inj (eq_of_parseChannels hchannel)
    rw [hfirst]
    rfl
  · cases h

theorem spells_of_parseSeqs (h : parseSeqs alnum l = some p) : p.Spells l := by
  unfold parseSeqs at h
  split at h
  · simp only [Option.bind_eq_bind, Option.bind_eq_some_iff] at h
    obtain ⟨port, hport, channel, hchannel, h⟩ := h
    obtain ⟨rfl, rfl⟩ := List.pair_inj (eq_of_parsePort hport)
    obtain ⟨rfl, rfl⟩ := List.pair_inj (eq_of_parseChannels hchannel)
    split_ifs at h with hsend hrecv hack
    all_goals
      obtain rfl := Option.some.inj h
      subst_vars
      rfl
  · cases h

/-- The paths of a packet, for each of the three kinds. -/
theorem eq_of_parsePacketPath {kind : String} {path : PortId → ChannelId → Sequence → Path}
    (h : parsePacketPath alnum kind path l = some p) :
    ∃ port channel sequence number, p = path port channel sequence ∧
      l = [kind, "ports", port.str, "channels", channel.str, "sequences", number] ∧
      parseU64 number = some sequence := by
  unfold parsePacketPath at h
  split at h
  · split_ifs at h with hfirst
    simp only [Option.bind_eq_bind, Option.bind_eq_some_iff, Option.some.injEq] at h
    obtain ⟨port, hport, channel, hchannel, sequence, hsequence, rfl⟩ := h
    obtain ⟨rfl, rfl⟩ := List.pair_inj (eq_of_parsePort hport)
    obtain ⟨rfl, rfl⟩ := List.pair_inj (eq_of_parseChannels hchannel)
    obtain ⟨number, hpair, hnumber⟩ := parsePair_eq_some.mp hsequence
    obtain ⟨rfl, rfl⟩ := List.pair_inj hpair
    exact ⟨port, channel, sequence, _, rfl, by rw [hfirst], hnumber⟩
  · cases h

theorem spells_of_parseCommitments (h : parseCommitments alnum l = some p) : p.Spells l := by
  obtain ⟨port, channel, sequence, number, rfl, hl, hnumber⟩ := eq_of_parsePacketPath h
  exact ⟨number, hl, hnumber⟩

theorem spells_of_parseAcks (h : parseAcks alnum l = some p) : p.Spells l := by
  obtain ⟨port, channel, sequence, number, rfl, hl, hnumber⟩ := eq_of_parsePacketPath h
  exact ⟨number, hl, hnumber⟩

theorem spells_of_parseReceipts (h : parseReceipts alnum l = some p) : p.Spells l := by
  obtain ⟨port, channel, sequence, number, rfl, hl, hnumber⟩ := eq_of_parsePacketPath h
  exact ⟨number, hl, hnumber⟩

theorem spells_of_parseUpgrades (h : parseUpgrades l = some p) : p.Spells l := by
  unfold parseUpgrades at h
  split at h
  · next first number last =>
    split_ifs at h with hfirst hclient hcons
    all_goals
      simp only [Option.bind_eq_bind, Option.bind_eq_some_iff, Option.some.injEq, reduceCtorEq,
        and_false, exists_false] at h
    · obtain ⟨height, hheight, rfl⟩ := h
      exact ⟨number, by rw [hfirst, hclient], hheight⟩
    · obtain ⟨height, hheight, rfl⟩ := h
      exact ⟨number, by rw [hfirst, hcons], hheight⟩
  · cases h

theorem spells_of_parseOthers (h : parseOthers alnum l = some p) : p.Spells l := by
  simp only [parseOthers, Option.or_eq_some_iff] at h
  rcases h with h | ⟨-, h | ⟨-, h | ⟨-, h | ⟨-, h | ⟨-, h | ⟨-, h | ⟨-, h⟩⟩⟩⟩⟩⟩⟩
  · exact spells_of_parseConnections h
  · exact spells_of_parsePorts h
  · exact spells_of_parseChannelEnds h
  · exact spells_of_parseSeqs h
  · exact spells_of_parseCommitments h
  · exact spells_of_parseAcks h
  · exact spells_of_parseReceipts h
  · exact spells_of_parseUpgrades h

theorem spells_of_parseClientPath {id : ClientId} (h : parseClientPath id l = some p) :
    p.Spells ("clients" :: id.str :: l) := by
  unfold parseClientPath at h
  split at h
  · split_ifs at h with hstate hconn
    all_goals
      obtain rfl := Option.some.inj h
      subst_vars
      rfl
  · next kind last =>
    split_ifs at h with hkind
    obtain ⟨height, hheight, rfl⟩ := Option.map_eq_some_iff.mp h
    unfold parseEpochHeight at hheight
    split at hheight
    · next epoch number hsplit =>
      simp only [Option.bind_eq_bind, Option.bind_eq_some_iff, Option.some.injEq] at hheight
      obtain ⟨n, hn, k, hk, rfl⟩ := hheight
      exact ⟨last, epoch, number, by rw [hkind], hsplit, hn, hk⟩
    · cases hheight
  · cases h

/-- How the first parser ends: it panics on `clients` alone. -/
theorem parseClientPaths_cases {ε : Type} (alnum : Char → Bool) (l : List String) :
    (l = ["clients"] ∧ parseClientPaths (ε := ε) alnum l = .error (.panic .outOfBounds)) ∨
      (l ≠ ["clients"] ∧ ∃ o, parseClientPaths (ε := ε) alnum l = .ok o ∧
        ∀ p, o = some p → p.Spells l) := by
  cases l with
  | nil => exact .inr ⟨nofun, none, rfl, nofun⟩
  | cons first rest =>
    by_cases hfirst : first = "clients"
    · subst hfirst
      cases rest with
      | nil => exact .inl ⟨rfl, rfl⟩
      | cons second rest =>
        refine .inr ⟨by simp, ?_⟩
        cases hid : ClientId.fromStr alnum second with
        | error e => exact ⟨none, by simp [parseClientPaths, Result.index, hid], nofun⟩
        | ok id =>
          refine ⟨parseClientPath id rest, by simp [parseClientPaths, Result.index, hid], ?_⟩
          rw [← (ClientId.fromStr_eq_ok.mp hid).1]
          exact fun p => spells_of_parseClientPath
    · refine .inr ⟨by simp [hfirst], none, parseClientPaths_of_ne hfirst, nofun⟩

theorem split_eq_clients {s : String} : Text.split '/' s = ["clients"] ↔ s = "clients" := by
  constructor
  · intro h
    rw [← Text.join_split '/' s, h, Text.join_singleton]
  · rintro rfl
    exact Text.split_eq_singleton (by decide)

theorem returns_fromStr {s : String} : Returns (fromStr alnum s) ↔ s ≠ "clients" := by
  rw [fromStr, Result.returns_bind, ne_eq, ← split_eq_clients]
  rcases parseClientPaths_cases (ε := PathError) alnum (Text.split '/' s) with
    ⟨hl, hpanic⟩ | ⟨hl, o, hok, -⟩
  · rw [hpanic]
    exact iff_of_false (fun h => Result.not_returns_panic h.1) fun h => h hl
  · rw [hok]
    exact iff_of_true ⟨Result.returns_ok, fun _ _ => Result.returns_ofExcept⟩ hl

/-- An accepted text has the components of its path, up to the spelling of numbers. -/
theorem fromStr_spells {s : String} (h : fromStr alnum s = .ok p) :
    p.Spells (Text.split '/' s) := by
  obtain ⟨o, hclient, hothers⟩ := Result.bind_eq_ok.mp h
  rw [Result.ofExcept_eq_ok, Result.okOr_eq_ok, Option.or_eq_some_iff] at hothers
  rcases parseClientPaths_cases (ε := PathError) alnum (Text.split '/' s) with
    ⟨-, hpanic⟩ | ⟨-, o', hok, hspells⟩
  · rw [hpanic] at hclient
    cases hclient
  · obtain rfl : o' = o := Except.ok.inj (hok.symm.trans hclient)
    rcases hothers with ho | ⟨-, ho⟩
    · exact hspells p ho
    · exact spells_of_parseOthers ho

/-! ### Canonical texts -/

/-- The components that stand for numbers. -/
def numerals : List String → List String
  | [first, number, _] => if first = upgradedIbcState then [number] else []
  | [_, _, _, last] => Text.split '-' last
  | [_, _, _, _, _, _, last] => [last]
  | _ => []

/-- The last component of the path of a consensus state. -/
theorem epochHeight_eq_iff {height : Height} {last epoch number : String}
    (hlast : Text.split '-' last = [epoch, number])
    (hepoch : parseU64 epoch = some height.revisionNumber)
    (hnumber : parseU64 number = some height.revisionHeight) :
    epochHeight height = last ↔ CanonicalNumeral epoch ∧ CanonicalNumeral number := by
  rw [← toString_eq_iff_canonical hepoch, ← toString_eq_iff_canonical hnumber]
  constructor
  · rintro rfl
    exact List.pair_inj ((split_epochHeight height).symm.trans hlast)
  · rintro ⟨hepoch', hnumber'⟩
    rw [epochHeight_eq_join, hepoch', hnumber', ← hlast, Text.join_split]

/-- Components are those of the path just when the numbers among them are canonical. -/
theorem Spells.components_eq_iff (h : p.Spells l) :
    p.components = l ↔ ∀ s ∈ numerals l, CanonicalNumeral s := by
  cases p with
  | clientConsensusState id height =>
    obtain ⟨last, epoch, number, rfl, hsplit, hepoch, hnumber⟩ := h
    simp [components, numerals, hsplit, epochHeight_eq_iff hsplit hepoch hnumber]
  | commitment port channel sequence | ack port channel sequence | receipt port channel sequence
  | upgradedClientState height | upgradedClientConsensusState height =>
    obtain ⟨number, rfl, hnumber⟩ := h
    have hcanon := toString_eq_iff_canonical hnumber
    rw [Nat.toString_eq_repr] at hcanon
    simp [components, numerals, hcanon]
  | clientState id | clientConnection id =>
    obtain rfl := h
    simp [components, numerals, upgradedIbcState]
  | connection id | ports port | channelEnd port channel | seqSend port channel
  | seqRecv port channel | seqAck port channel =>
    obtain rfl := h
    simp [components, numerals]

/-- A text is the one written for its path just when it has the components of the path. -/
theorem toText_eq_iff {s : String} : p.toText = s ↔ p.components = Text.split '/' s := by
  constructor
  · rintro rfl
    exact split_toText.symm
  · intro h
    rw [toText_eq_join, h, Text.join_split]

end Path

open Ibc.Path

/-- **Reading and writing paths.** Parsing a text ends with a path or an error, and a path it gives
has that text, exactly when the text is not `clients` and the numbers in an accepted text are
written without a sign and without zeros in front. -/
theorem path_text_canonical (alnum : Char → Bool) (s : String) :
    (Returns (fromStr alnum s) ∧ ∀ p, fromStr alnum s = .ok p → p.toText = s) ↔
      s ≠ "clients" ∧ ∀ p, fromStr alnum s = .ok p →
        ∀ number ∈ numerals (Text.split '/' s), CanonicalNumeral number := by
  refine and_congr returns_fromStr (forall_congr' fun p => forall_congr' fun hp => ?_)
  rw [toText_eq_iff, (fromStr_spells hp).components_eq_iff]

/-- `clients` panics, and a sequence is read with a sign or with a zero in front. -/
theorem path_text_not_canonical :
    fromStr Char.isAlphanum "clients" = .error (.panic .outOfBounds) ∧
      fromStr Char.isAlphanum "commitments/ports/transfer/channels/channel-0/sequences/+1" =
        .ok (.commitment .transfer (.new 0) 1) ∧
      fromStr Char.isAlphanum "commitments/ports/transfer/channels/channel-0/sequences/01" =
        .ok (.commitment .transfer (.new 0) 1) ∧
      (Path.commitment .transfer (.new 0) 1).toText =
        "commitments/ports/transfer/channels/channel-0/sequences/1" := by
  refine ⟨?_, ?_, ?_, ?_⟩ <;> decide +kernel

end Ibc
