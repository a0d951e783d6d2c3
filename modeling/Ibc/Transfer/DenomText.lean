import Ibc.Transfer.Denom

/-!
# The text of a denomination

A denomination travels as text: the channels of its trace, the last one passed first, and then the
base, with slashes between all parts. The text is a list of parts (`PrefixedDenom.parts`), and
reading a text is the same as splitting it into these parts (`PrefixedDenom.fromStr_eq_ok`).

* **`denom_text_canonical`**: a text that is read is the text of what was read, and what a further
  channel adds to it is found again and can be taken off.
* **`denom_decoders_agree`**: a denomination from the wire, with the trace and the base apart, is
  read from its text just when the base has no slash.
-/

namespace Ibc

variable {alnum : Char → Bool}

/-- Both identifiers would be read from their texts. -/
structure TracePrefix.Valid (alnum : Char → Bool) (p : TracePrefix) : Prop where
  portId : PortId.fromStr alnum p.portId.str = .ok p.portId
  channelId : ChannelId.fromStr alnum p.channelId.str = .ok p.channelId

namespace TracePrefix

/-- The two parts of a channel. -/
def parts (p : TracePrefix) : List String := [p.portId.str, p.channelId.str]

theorem toText_eq (p : TracePrefix) : p.toText = Text.join '/' p.parts := by
  rw [parts, Text.join_cons '/' p.portId.str (List.cons_ne_nil _ _), Text.join_singleton]
  rfl

theorem noSeparator {p : TracePrefix} {part : String} (h : part ∈ p.parts) : '/' ∉ part.toList := by
  simp only [parts, List.mem_cons, List.not_mem_nil, or_false] at h
  rcases h with rfl | rfl
  · exact p.portId.wf.noSeparator
  · exact p.channelId.wf.noSeparator

end TracePrefix

/-! ### Traces -/

namespace TracePath

variable {path : TracePath}

/-- The parts of a trace, the last channel first. -/
def parts (path : TracePath) : List String := path.prefixes.reverse.flatMap TracePrefix.parts

def Valid (alnum : Char → Bool) (path : TracePath) : Prop :=
  ∀ p ∈ path.prefixes, p.Valid alnum

theorem toText_eq (path : TracePath) : path.toText = Text.join '/' path.parts := by
  have hgroups : path.prefixes.reverse.map TracePrefix.toText =
      (path.prefixes.reverse.map TracePrefix.parts).map (Text.join '/') := by
    rw [List.map_map]
    exact List.map_congr_left fun p _ => p.toText_eq
  rw [toText, hgroups, Text.join_map_join, parts, List.flatMap]
  intro group hgroup
  obtain ⟨p, -, rfl⟩ := List.mem_map.mp hgroup
  exact List.cons_ne_nil _ _

theorem noSeparator {part : String} (h : part ∈ path.parts) : '/' ∉ part.toList := by
  obtain ⟨p, -, hpart⟩ := List.mem_flatMap.mp h
  exact TracePrefix.noSeparator hpart

theorem length_parts (path : TracePath) : path.parts.length = 2 * path.prefixes.length := by
  have hsum : ∀ l : List TracePrefix, (l.flatMap TracePrefix.parts).length = 2 * l.length := by
    intro l
    induction l with
    | nil => rfl
    | cons p l ih =>
      rw [List.flatMap_cons, List.length_append, ih, List.length_cons]
      simp only [TracePrefix.parts, List.length_cons, List.length_nil]
      omega
  rw [parts, hsum, List.length_reverse]

@[simp] theorem parts_eq_nil : path.parts = [] ↔ path.prefixes = [] := by
  rw [← List.length_eq_zero_iff, length_parts, ← List.length_eq_zero_iff]
  omega

theorem parts_addPrefix (path : TracePath) (p : TracePrefix) :
    (path.addPrefix p).parts = p.parts ++ path.parts := by
  simp [parts, addPrefix]

/-- An even number of parts is made of its pairs. -/
theorem flatMap_chunks {l : List String} (h : l.length % 2 = 0) :
    (chunks l).flatMap (fun pair => [pair.1, pair.2]) = l := by
  induction l using chunks.induct with
  | case1 a b l ih =>
    have heven : l.length % 2 = 0 := by
      simp only [List.length_cons] at h
      omega
    rw [chunks, List.flatMap_cons, ih heven]
    rfl
  | case2 l hl =>
    rcases l with - | ⟨a, - | ⟨b, l⟩⟩
    · rfl
    · simp at h
    · exact absurd rfl (hl a b l)

theorem chunks_flatMap (pairs : List (String × String)) :
    chunks (pairs.flatMap fun pair => [pair.1, pair.2]) = pairs := by
  induction pairs with
  | nil => rfl
  | cons pair pairs ih =>
    rw [List.flatMap_cons, List.cons_append, List.singleton_append, chunks, ih]

/-- The pairs that are read are those of the channels, if all of these are valid. -/
theorem parsePairs_eq_ok {pos : ℕ} {pairs : List (String × String)} {prefixes : List TracePrefix} :
    parsePairs alnum pos pairs = .ok prefixes ↔
      pairs = prefixes.map (fun p => (p.portId.str, p.channelId.str)) ∧
        ∀ p ∈ prefixes, p.Valid alnum := by
  induction pairs generalizing pos prefixes with
  | nil => cases prefixes <;> simp [parsePairs]
  | cons pair pairs ih =>
    simp only [parsePairs, Result.bind_eq_ok, Result.mapError_eq_ok, Result.pure_eq_ok, ih]
    constructor
    · rintro ⟨portId, hport, channelId, hchan, rest, ⟨rfl, hvalid⟩, rfl⟩
      obtain ⟨hp, -⟩ := PortId.fromStr_eq_ok.mp hport
      obtain ⟨hc, -⟩ := ChannelId.fromStr_eq_ok.mp hchan
      rw [← hp] at hport
      rw [← hc] at hchan
      refine ⟨?_, List.forall_mem_cons.mpr ⟨⟨hport, hchan⟩, hvalid⟩⟩
      rw [List.map_cons, hp, hc]
    · rintro ⟨heq, hvalid⟩
      cases prefixes with
      | nil => cases heq
      | cons p rest =>
        obtain ⟨rfl, rfl⟩ := List.cons.inj heq
        obtain ⟨⟨hport, hchan⟩, hrest⟩ := List.forall_mem_cons.mp hvalid
        exact ⟨p.portId, hport, p.channelId, hchan, rest, ⟨rfl, hrest⟩, rfl⟩

/-- The parts that are read are those of the trace, if all of its channels are valid. -/
theorem tryFrom_eq_ok {parts : List String} :
    tryFrom alnum parts = .ok path ↔ parts = path.parts ∧ path.Valid alnum := by
  simp only [tryFrom, Result.bind_eq_ok, Result.ensure_eq_ok, Result.pure_eq_ok, parsePairs_eq_ok]
  -- The parts of a trace are the pairs of its channels, in reverse.
  have hpairs : path.parts = (path.prefixes.map
      fun p => (p.portId.str, p.channelId.str)).reverse.flatMap fun pair => [pair.1, pair.2] := by
    rw [← List.map_reverse, List.flatMap_map]
    rfl
  constructor
  · rintro ⟨_, heven, prefixes, ⟨hchunks, hvalid⟩, rfl⟩
    refine ⟨?_, hvalid⟩
    rw [hpairs, ← hchunks, List.reverse_reverse, flatMap_chunks heven]
  · rintro ⟨rfl, hvalid⟩
    refine ⟨(), by rw [length_parts, Nat.mul_mod_right], path.prefixes, ⟨?_, hvalid⟩, rfl⟩
    rw [hpairs, chunks_flatMap, List.reverse_reverse]

/-- Whatever text a trace is read from, its channels are valid. -/
theorem fromStr_valid {s : String} (h : fromStr alnum s = .ok path) : path.Valid alnum :=
  (tryFrom_eq_ok.mp h).2

/-- A trace is read from its own text; that of the empty trace is blank. -/
theorem fromStr_toText (h : path.Valid alnum) : fromStr alnum path.toText = .ok path := by
  unfold fromStr
  by_cases hempty : path.prefixes = []
  · obtain ⟨prefixes⟩ := path
    obtain rfl : prefixes = [] := hempty
    have hblank : (⟨[]⟩ : TracePath).toText = "" := rfl
    rw [hblank]
    rfl
  · have hne : path.parts ≠ [] := mt parts_eq_nil.mp hempty
    have hlen : path.parts.length ≠ 1 := by
      rw [length_parts]
      omega
    simp only [toText_eq, Text.split_join (fun _ => noSeparator) hne, hlen, false_and, if_false]
    exact tryFrom_eq_ok.mpr ⟨rfl, h⟩

end TracePath

/-! ### Denominations -/

theorem BaseDenom.fromStr_eq_ok {s : String} {b : BaseDenom} :
    BaseDenom.fromStr s = .ok b ↔ s = b.str := by
  unfold BaseDenom.fromStr
  constructor
  · intro h
    split_ifs at h
    cases h
    rfl
  · rintro rfl
    rw [dif_neg b.nonblank]

namespace PrefixedDenom

variable {s : String} {d d' : PrefixedDenom}

/-- The parts of a denomination: those of the trace, and the base. -/
def parts (d : PrefixedDenom) : List String := d.tracePath.parts ++ [d.baseDenom.str]

theorem toText_eq (d : PrefixedDenom) : d.toText = Text.join '/' d.parts := by
  unfold toText parts
  split_ifs with h
  · rw [TracePath.parts_eq_nil.mpr h, List.nil_append, Text.join_singleton]
  · have hne : d.tracePath.parts ≠ [] := mt TracePath.parts_eq_nil.mp h
    rw [Text.join_append '/' hne (List.cons_ne_nil _ _), Text.join_singleton, TracePath.toText_eq]
    rfl

theorem concat_eq_parts {l : List String} {last : String} :
    l ++ [last] = d.parts ↔ l = d.tracePath.parts ∧ last = d.baseDenom.str := by
  constructor
  · intro h
    obtain ⟨hl, hlast⟩ := List.append_inj' h rfl
    exact ⟨hl, List.singleton_inj.mp hlast⟩
  · rintro ⟨rfl, rfl⟩
    rfl

/-- **Reading a text is splitting it into the parts of the denomination.** -/
theorem fromStr_eq_ok : fromStr alnum s = .ok d ↔
    Text.split '/' s = d.parts ∧ d.tracePath.Valid alnum := by
  have hne := Text.split_ne_nil '/' s
  have hlast : (Text.split '/' s).getLastD "" = (Text.split '/' s).getLast hne := by
    rw [List.getLastD_eq_getLast?, List.getLast?_eq_some_getLast hne, Option.getD_some]
  have hmem := List.getLast_mem hne
  have hsplit := List.dropLast_append_getLast hne
  generalize (Text.split '/' s).getLast hne = last at hlast hmem hsplit
  simp only [fromStr, hlast]
  split_ifs with heq
  · -- The text has no separator, since its last part has none.
    have hnone : '/' ∉ s.toList := heq ▸ Text.sep_notMem_of_mem_split hmem
    simp only [Result.bind_eq_ok, Result.pure_eq_ok, BaseDenom.fromStr_eq_ok,
      Text.split_eq_singleton hnone]
    constructor
    · rintro ⟨b, rfl, rfl⟩
      exact ⟨rfl, List.forall_mem_nil _⟩
    · rintro ⟨hparts, -⟩
      rw [← List.nil_append [s], concat_eq_parts] at hparts
      obtain ⟨htrace, rfl⟩ := hparts
      refine ⟨d.baseDenom, rfl, ?_⟩
      have hempty : d.tracePath = ⟨[]⟩ :=
        congrArg TracePath.mk (TracePath.parts_eq_nil.mp htrace.symm)
      rw [← hempty]
  · simp only [Result.bind_eq_ok, Result.pure_eq_ok, BaseDenom.fromStr_eq_ok,
      TracePath.tryFrom_eq_ok]
    rw [← hsplit, concat_eq_parts, List.dropLast_concat]
    constructor
    · rintro ⟨b, rfl, path, ⟨hpath, hvalid⟩, rfl⟩
      exact ⟨⟨hpath, rfl⟩, hvalid⟩
    · rintro ⟨⟨hpath, hbase⟩, hvalid⟩
      exact ⟨d.baseDenom, hbase, d.tracePath, ⟨hpath, hvalid⟩, rfl⟩

/-- A text that is read is the text of what was read. -/
theorem toText_of_fromStr (h : fromStr alnum s = .ok d) : d.toText = s := by
  rw [toText_eq, ← (fromStr_eq_ok.mp h).1, Text.join_split]

/-- A denomination is read from its own text just when its base has no separator. -/
theorem fromStr_toText (h : d.tracePath.Valid alnum) :
    fromStr alnum d.toText = .ok d ↔ '/' ∉ d.baseDenom.str.toList := by
  rw [fromStr_eq_ok, and_iff_left h, toText_eq]
  constructor
  · intro hsplit
    have hbase : d.baseDenom.str ∈ d.parts := List.mem_concat_self
    rw [← hsplit] at hbase
    exact Text.sep_notMem_of_mem_split hbase
  · intro hbase
    refine Text.split_join ?_ (by simp [parts])
    intro part hpart
    rcases List.mem_append.mp hpart with htrace | hlast
    · exact TracePath.noSeparator htrace
    · rwa [List.mem_singleton.mp hlast]

theorem noSeparator_of_fromStr (h : fromStr alnum s = .ok d) : '/' ∉ d.baseDenom.str.toList := by
  have hvalid := (fromStr_eq_ok.mp h).2
  rw [← fromStr_toText hvalid, toText_of_fromStr h]
  exact h

/-! ### Adding and removing a channel -/

variable {pfx : TracePrefix}

theorem parts_addTracePrefix (d : PrefixedDenom) (pfx : TracePrefix) :
    (d.addTracePrefix pfx).parts = pfx.parts ++ d.parts := by
  rw [parts, parts, addTracePrefix, TracePath.parts_addPrefix, List.append_assoc]

theorem toText_addTracePrefix (d : PrefixedDenom) (pfx : TracePrefix) :
    (d.addTracePrefix pfx).toText = pfx.toText ++ "/" ++ d.toText := by
  have hpfx : pfx.parts ≠ [] := List.cons_ne_nil _ _
  have hd : d.parts ≠ [] := by simp [parts]
  rw [toText_eq, parts_addTracePrefix, Text.join_append '/' hpfx hd, ← toText_eq,
    ← TracePrefix.toText_eq]
  rfl

theorem valid_addTracePrefix (hpfx : pfx.Valid alnum) (h : d.tracePath.Valid alnum) :
    (d.addTracePrefix pfx).tracePath.Valid alnum := by
  intro p hp
  rcases List.mem_append.mp hp with hold | hnew
  · exact h p hold
  · exact List.mem_singleton.mp hnew ▸ hpfx

theorem startsWith_addTracePrefix (d : PrefixedDenom) (pfx p : TracePrefix) :
    (d.addTracePrefix pfx).tracePath.startsWith p = true ↔ p = pfx := by
  simp only [addTracePrefix, TracePath.addPrefix, TracePath.startsWith, List.getLast?_concat,
    Option.some.injEq, decide_eq_true_eq]
  exact eq_comm

theorem removeTracePrefix_addTracePrefix (d : PrefixedDenom) (pfx : TracePrefix) :
    (d.addTracePrefix pfx).removeTracePrefix pfx = d := by
  have hstarts := (startsWith_addTracePrefix d pfx pfx).mpr rfl
  rw [removeTracePrefix, TracePath.removePrefix, if_pos hstarts]
  simp [addTracePrefix, TracePath.addPrefix]

/-! ### The decoder of the wire form -/

theorem tryFrom_eq_ok {raw : RawDenomTrace} : tryFrom alnum raw = .ok d ↔
    raw.baseDenom = d.baseDenom.str ∧ TracePath.fromStr alnum raw.path = .ok d.tracePath := by
  simp only [tryFrom, Result.bind_eq_ok, Result.pure_eq_ok, BaseDenom.fromStr_eq_ok]
  constructor
  · rintro ⟨b, hb, path, hpath, rfl⟩
    exact ⟨hb, hpath⟩
  · rintro ⟨hb, hpath⟩
    exact ⟨d.baseDenom, hb, d.tracePath, hpath, rfl⟩

/-- The wire form keeps the base apart, so nothing is lost on it. -/
theorem tryFrom_toRaw (h : d.tracePath.Valid alnum) : tryFrom alnum d.toRaw = .ok d :=
  tryFrom_eq_ok.mpr ⟨rfl, TracePath.fromStr_toText h⟩

end PrefixedDenom

open PrefixedDenom (fromStr tryFrom)

/-- **The text of a denomination is canonical.** A text that is read is the text of what was read.
With a further channel in front it is the text of the denomination with that channel added, which
starts with no other channel and gives the first denomination again when the channel is removed. -/
theorem denom_text_canonical {s : String} {d : PrefixedDenom} (h : fromStr alnum s = .ok d) :
    d.toText = s ∧ (∀ s', fromStr alnum s' = .ok d → s' = s) ∧
    ∀ pfx : TracePrefix, pfx.Valid alnum →
      (d.addTracePrefix pfx).toText = pfx.portId.str ++ "/" ++ pfx.channelId.str ++ "/" ++ s ∧
      fromStr alnum (d.addTracePrefix pfx).toText = .ok (d.addTracePrefix pfx) ∧
      (∀ p, (d.addTracePrefix pfx).tracePath.startsWith p = true ↔ p = pfx) ∧
      (d.addTracePrefix pfx).removeTracePrefix pfx = d := by
  have htext := PrefixedDenom.toText_of_fromStr h
  refine ⟨htext, fun s' h' => (PrefixedDenom.toText_of_fromStr h').symm.trans htext, ?_⟩
  intro pfx hpfx
  refine ⟨?_, ?_, d.startsWith_addTracePrefix pfx, d.removeTracePrefix_addTracePrefix pfx⟩
  · rw [d.toText_addTracePrefix, htext, TracePrefix.toText]
  · have hvalid := PrefixedDenom.valid_addTracePrefix hpfx (PrefixedDenom.fromStr_eq_ok.mp h).2
    have hbase : '/' ∉ d.baseDenom.str.toList := PrefixedDenom.noSeparator_of_fromStr h
    exact (PrefixedDenom.fromStr_toText hvalid).mpr hbase

/-- A voucher that has passed two channels, with a third added. -/
theorem voucher_text_canonical : ∃ d,
    fromStr Char.isAlphanum "transfer/channel-0/transfer/channel-1/uatom" = .ok d ∧
    (d.addTracePrefix ⟨.transfer, .new 7⟩).toText =
      "transfer/channel-7/transfer/channel-0/transfer/channel-1/uatom" ∧
    fromStr Char.isAlphanum (d.addTracePrefix ⟨.transfer, .new 7⟩).toText =
      .ok (d.addTracePrefix ⟨.transfer, .new 7⟩) := by
  let d : PrefixedDenom :=
    ⟨⟨[⟨.transfer, .new 1⟩, ⟨.transfer, .new 0⟩]⟩, ⟨"uatom", by decide⟩⟩
  have hread : fromStr Char.isAlphanum "transfer/channel-0/transfer/channel-1/uatom" = .ok d := by
    decide +kernel
  have hvalid : TracePrefix.Valid Char.isAlphanum ⟨.transfer, .new 7⟩ :=
    ⟨by decide +kernel, by decide +kernel⟩
  obtain ⟨htext, hagain, -⟩ := (denom_text_canonical hread).2.2 _ hvalid
  exact ⟨d, hread, htext.trans (by decide +kernel), hagain⟩

/-- **The two decoders agree on bases without a slash, and on no others.** Then the text tells
denominations apart, and the channels they start with. -/
theorem denom_decoders_agree {raw : RawDenomTrace} {d : PrefixedDenom}
    (h : tryFrom alnum raw = .ok d) :
    (fromStr alnum d.toText = .ok d ↔ '/' ∉ raw.baseDenom.toList) ∧
    ('/' ∉ raw.baseDenom.toList →
      (∀ raw' d', tryFrom alnum raw' = .ok d' → '/' ∉ raw'.baseDenom.toList →
        d'.toText = d.toText → d' = d) ∧
      ∀ d', fromStr alnum d.toText = .ok d' →
        ∀ p, d'.tracePath.startsWith p = d.tracePath.startsWith p) := by
  -- Each decoder checks the channels of the trace.
  have hagree : ∀ {raw : RawDenomTrace} {d : PrefixedDenom}, tryFrom alnum raw = .ok d →
      (fromStr alnum d.toText = .ok d ↔ '/' ∉ raw.baseDenom.toList) := by
    intro raw d h
    obtain ⟨hbase, hpath⟩ := PrefixedDenom.tryFrom_eq_ok.mp h
    rw [hbase]
    exact PrefixedDenom.fromStr_toText (TracePath.fromStr_valid hpath)
  refine ⟨hagree h, fun hslash => ⟨fun raw' d' h' hslash' htext => ?_, fun d' h' p => ?_⟩⟩
  · have hread := (hagree h').mpr hslash'
    rw [htext, (hagree h).mpr hslash] at hread
    exact (Except.ok.inj hread).symm
  · rw [(hagree h).mpr hslash] at h'
    rw [Except.ok.inj h']

/-- A voucher, from the wire and from its text. -/
theorem voucher_decoders_agree : ∃ d,
    tryFrom Char.isAlphanum ⟨"transfer/channel-0", "uatom"⟩ = .ok d ∧
    fromStr Char.isAlphanum d.toText = .ok d := by
  let d : PrefixedDenom := ⟨⟨[⟨.transfer, .new 0⟩]⟩, ⟨"uatom", by decide⟩⟩
  have hdecoded : tryFrom Char.isAlphanum ⟨"transfer/channel-0", "uatom"⟩ = .ok d := by
    decide +kernel
  exact ⟨d, hdecoded, (denom_decoders_agree hdecoded).1.mpr (by decide)⟩

/-- A token with an empty trace, whose base looks like a voucher, has the text of the voucher and is
read back as the voucher. -/
theorem slash_in_base_misread : ∃ d voucher,
    tryFrom Char.isAlphanum ⟨"", "transfer/channel-0/uatom"⟩ = .ok d ∧
    tryFrom Char.isAlphanum ⟨"transfer/channel-0", "uatom"⟩ = .ok voucher ∧
    d ≠ voucher ∧ d.toText = voucher.toText ∧ fromStr Char.isAlphanum d.toText = .ok voucher ∧
    d.tracePath.startsWith ⟨.transfer, .new 0⟩ = false ∧
    voucher.tracePath.startsWith ⟨.transfer, .new 0⟩ = true := by
  refine ⟨⟨⟨[]⟩, ⟨"transfer/channel-0/uatom", by decide⟩⟩,
    ⟨⟨[⟨.transfer, .new 0⟩]⟩, ⟨"uatom", by decide⟩⟩, ?_⟩
  decide +kernel

end Ibc
