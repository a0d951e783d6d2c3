import Ibc.Model.Types
import Ibc.Support.Proto

/-!
# Wire encodings

The protobuf encodings of the values a proof is checked against: channel ends, connection ends,
client states wrapped in `Any`, and sequence numbers. Ends and sequences can be read back from their
bytes (`RawConnectionEnd.encode_inj`, `RawChannel.encode_inj`, `encodeU64_inj`), which is what a
proof about them rests on.
-/

namespace Ibc

open Proto

/-- A protobuf wrapper around a 64-bit number. -/
def encodeU64 (n : ℕ) : Bytes := varintField 0x08 n

theorem encodeU64_inj {m n : ℕ} (h : encodeU64 m = encodeU64 n) : m = n := by
  have h' : varintField 0x08 m ++ [] = varintField 0x08 n ++ [] := by simpa [encodeU64] using h
  exact (varintField_append_inj (avoids_nil _) (avoids_nil _) h').1

/-- The type, then the bytes. -/
def Any.encode (a : Any) : Bytes := bytesField 0x0a (utf8 a.typeUrl) ++ bytesField 0x12 a.value

/-- The identifier, then the features. -/
def ConnectionVersion.encode (v : ConnectionVersion) : Bytes :=
  bytesField 0x0a (utf8 v.identifier) ++ repeatedField 0x12 (v.features.map utf8)

/-- The prefix of the counterparty is a message of its own. -/
def RawConnectionCounterparty.encode (c : RawConnectionCounterparty) : Bytes :=
  bytesField 0x0a (utf8 c.clientId) ++ (bytesField 0x12 (utf8 c.connectionId) ++
    optionField 0x1a (c.pfx.map (bytesField 0x0a)))

/-- The five fields in order. -/
def RawConnectionEnd.encode (c : RawConnectionEnd) : Bytes :=
  bytesField 0x0a (utf8 c.clientId) ++
    (repeatedField 0x12 (c.versions.map ConnectionVersion.encode) ++
      (varintField 0x18 c.state ++
        (optionField 0x22 (c.counterparty.map RawConnectionCounterparty.encode) ++
          varintField 0x28 c.delayPeriod)))

/-- A byte string as the last field. -/
theorem bytesField_inj {t : UInt8} {b b' : Bytes} (h : bytesField t b = bytesField t b') :
    b = b' := by
  have h' : bytesField t b ++ [] = bytesField t b' ++ [] := by simpa using h
  exact (bytesField_append_inj (avoids_nil _) (avoids_nil _) h').1

theorem avoids_bytesField {t t' : UInt8} {b : Bytes} (ht : t' ≠ t) :
    Avoids t (bytesField t' b) := by
  simpa using Avoids.bytesField (b := b) ht (avoids_nil t)

theorem avoids_repeatedField {t t' : UInt8} {bs : List Bytes} (ht : t' ≠ t) :
    Avoids t (repeatedField t' bs) := by
  have h : Avoids t (repeatedField t' bs ++ []) := .repeatedField ht (avoids_nil t)
  simpa using h

theorem ConnectionVersion.encode_inj {v v' : ConnectionVersion} (h : v.encode = v'.encode) :
    v = v' := by
  obtain ⟨hid, hrest⟩ := bytesField_append_inj (avoids_repeatedField (by decide))
    (avoids_repeatedField (by decide)) h
  have hrest' : repeatedField 0x12 (v.features.map utf8) ++ [] =
      repeatedField 0x12 (v'.features.map utf8) ++ [] := by simpa using hrest
  obtain ⟨hfeatures, -⟩ := repeatedField_append_inj (avoids_nil _) (avoids_nil _) hrest'
  have hmap : Function.Injective (List.map utf8) :=
    List.map_injective_iff.mpr fun _ _ => utf8_inj
  rcases v with ⟨_, _⟩
  rcases v' with ⟨_, _⟩
  simp only [ConnectionVersion.mk.injEq]
  exact ⟨utf8_inj hid, hmap hfeatures⟩

theorem avoids_varintField {t t' : UInt8} {n : ℕ} (ht : t' ≠ t) : Avoids t (varintField t' n) := by
  simpa using Avoids.varintField (n := n) ht (avoids_nil t)

theorem avoids_optionField {t t' : UInt8} {b : Option Bytes} (ht : t' ≠ t) :
    Avoids t (optionField t' b) := by
  simpa using Avoids.optionField (b := b) ht (avoids_nil t)

theorem RawConnectionCounterparty.encode_inj {c c' : RawConnectionCounterparty}
    (h : c.encode = c'.encode) : c = c' := by
  obtain ⟨hclient, h⟩ := bytesField_append_inj
    (.bytesField (by decide) (avoids_optionField (by decide)))
    (.bytesField (by decide) (avoids_optionField (by decide))) h
  obtain ⟨hconn, h⟩ := bytesField_append_inj (avoids_optionField (by decide))
    (avoids_optionField (by decide)) h
  have hpfx : optionField 0x1a (c.pfx.map (bytesField 0x0a)) ++ [] =
      optionField 0x1a (c'.pfx.map (bytesField 0x0a)) ++ [] := by simpa using h
  obtain ⟨hpfx, -⟩ := optionField_append_inj (avoids_nil _) (avoids_nil _) hpfx
  have hoption : Function.Injective (Option.map (bytesField 0x0a)) :=
    Option.map_injective fun _ _ => bytesField_inj
  rcases c with ⟨_, _, _⟩
  rcases c' with ⟨_, _, _⟩
  simp only [RawConnectionCounterparty.mk.injEq]
  exact ⟨utf8_inj hclient, utf8_inj hconn, hoption hpfx⟩

/-- **An encoded connection end determines the wire form of the connection end.** -/
theorem RawConnectionEnd.encode_inj {c c' : RawConnectionEnd} (h : c.encode = c'.encode) :
    c = c' := by
  obtain ⟨hclient, h⟩ := bytesField_append_inj
    (.repeatedField (by decide) (.varintField (by decide)
      (.optionField (by decide) (avoids_varintField (by decide)))))
    (.repeatedField (by decide) (.varintField (by decide)
      (.optionField (by decide) (avoids_varintField (by decide))))) h
  obtain ⟨hversions, h⟩ := repeatedField_append_inj
    (.varintField (by decide) (.optionField (by decide) (avoids_varintField (by decide))))
    (.varintField (by decide) (.optionField (by decide) (avoids_varintField (by decide)))) h
  obtain ⟨hstate, h⟩ := varintField_append_inj
    (.optionField (by decide) (avoids_varintField (by decide)))
    (.optionField (by decide) (avoids_varintField (by decide))) h
  obtain ⟨hcp, h⟩ := optionField_append_inj (avoids_varintField (by decide))
    (avoids_varintField (by decide)) h
  have hdelay : varintField 0x28 c.delayPeriod ++ [] = varintField 0x28 c'.delayPeriod ++ [] := by
    simpa using h
  obtain ⟨hdelay, -⟩ := varintField_append_inj (avoids_nil _) (avoids_nil _) hdelay
  have hmap : Function.Injective (List.map ConnectionVersion.encode) :=
    List.map_injective_iff.mpr fun _ _ => ConnectionVersion.encode_inj
  have hoption : Function.Injective (Option.map RawConnectionCounterparty.encode) :=
    Option.map_injective fun _ _ => RawConnectionCounterparty.encode_inj
  rcases c with ⟨_, _, _, _, _⟩
  rcases c' with ⟨_, _, _, _, _⟩
  simp only [RawConnectionEnd.mk.injEq]
  exact ⟨utf8_inj hclient, hmap hversions, hstate, hoption hcp, hdelay⟩

namespace RawChannel

/-- The port and the channel of the counterparty. -/
def encodeCounterparty (c : String × String) : Bytes :=
  bytesField 0x0a (utf8 c.1) ++ bytesField 0x12 (utf8 c.2)

/-- The five fields in order. -/
def encode (c : RawChannel) : Bytes :=
  varintField 0x08 c.state ++ (varintField 0x10 c.ordering ++
    (optionField 0x1a (c.counterparty.map encodeCounterparty) ++
      (repeatedField 0x22 (c.connectionHops.map utf8) ++ bytesField 0x2a (utf8 c.version))))

theorem encodeCounterparty_inj {c c' : String × String}
    (h : encodeCounterparty c = encodeCounterparty c') : c = c' := by
  obtain ⟨hport, hchan⟩ := bytesField_append_inj (avoids_bytesField (by decide))
    (avoids_bytesField (by decide)) h
  exact Prod.ext (utf8_inj hport) (utf8_inj (bytesField_inj hchan))

/-- **An encoded channel end determines the channel end.** -/
theorem encode_inj {c c' : RawChannel} (h : c.encode = c'.encode) : c = c' := by
  -- The tags of the fields ascend, so no field is mistaken for a later one.
  obtain ⟨hstate, h⟩ := varintField_append_inj
    (.varintField (by decide) (.optionField (by decide)
      (.repeatedField (by decide) (avoids_bytesField (by decide)))))
    (.varintField (by decide) (.optionField (by decide)
      (.repeatedField (by decide) (avoids_bytesField (by decide))))) h
  obtain ⟨hord, h⟩ := varintField_append_inj
    (.optionField (by decide) (.repeatedField (by decide) (avoids_bytesField (by decide))))
    (.optionField (by decide) (.repeatedField (by decide) (avoids_bytesField (by decide)))) h
  obtain ⟨hcp, h⟩ := optionField_append_inj
    (.repeatedField (by decide) (avoids_bytesField (by decide)))
    (.repeatedField (by decide) (avoids_bytesField (by decide))) h
  obtain ⟨hhops, hver⟩ := repeatedField_append_inj (avoids_bytesField (by decide))
    (avoids_bytesField (by decide)) h
  have hmap : Function.Injective (List.map utf8) :=
    List.map_injective_iff.mpr fun _ _ => utf8_inj
  have hoption : Function.Injective (Option.map encodeCounterparty) :=
    Option.map_injective fun _ _ => encodeCounterparty_inj
  rcases c with ⟨_, _, _, _, _⟩
  rcases c' with ⟨_, _, _, _, _⟩
  simp only [RawChannel.mk.injEq]
  exact ⟨hstate, hord, hoption hcp, hmap hhops, utf8_inj (bytesField_inj hver)⟩

end RawChannel

end Ibc
