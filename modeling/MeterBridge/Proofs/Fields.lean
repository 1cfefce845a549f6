import MeterBridge.Proofs.Meter
import MeterBridge.Proofs.Receiver

/-!
# Link-layer fields of telegrams

The address of the meter is looked for in two ways. The checks of a candidate look behind the anchor at its
front, whatever its length; the fields of a telegram have the address at a fixed place, behind four bytes,
and want ten bytes in all. With anchors of four bytes both find the same address.

* `Fields.exists_of_prefix` — four bytes and an address at the front are enough for the fields, and nothing
  of the bytes is lost in them.
* `Config.IsTelegram.exists_fields` — the fields of a telegram name the meter that was listened for.
* `Receiver.process_fields` — so do those of every telegram that a receiver accepts, whatever the least
  length of telegrams is.
-/

namespace MeterBridge

namespace Telegram.Fields

variable {bytes pattern address : Bytes}

/-- The bytes in front of the address: the length, the control byte and the manufacturer, low byte first. -/
def front (f : Fields) : Bytes :=
  [f.length, f.control, f.manufacturer.toUInt8, (f.manufacturer.toNat / 256).toUInt8]

/-- The fields are what the bytes begin with, and the number of those that are left. -/
structure IsSplitOf (f : Fields) (bytes : Bytes) : Prop where
  /-- A byte names the content unless the address is the end. -/
  controlInfo_iff : f.controlInfo = none ↔ bytes.length = fixedLength
  /-- The content is all that stands behind this byte. -/
  contentLength_add : f.controlInfo ≠ none → f.contentLength + (fixedLength + 1) = bytes.length
  /-- Fields and content make up the bytes. -/
  whole : f.front ++ f.address ++ f.controlInfo.toList ++ bytes.drop (bytes.length - f.contentLength) = bytes

/-- The manufacturer keeps both of its bytes. -/
theorem manufacturer_bytes (low high : UInt8) :
    (UInt16.ofNat (low.toNat + 256 * high.toNat)).toUInt8 = low ∧
      ((UInt16.ofNat (low.toNat + 256 * high.toNat)).toNat / 256).toUInt8 = high := by
  have hlow := low.toNat_lt
  have hhigh := high.toNat_lt
  have hnumber : (UInt16.ofNat (low.toNat + 256 * high.toNat)).toNat = low.toNat + 256 * high.toNat :=
    UInt16.toNat_ofNat_of_lt' (show _ < 65536 by omega)
  constructor
  · rw [← UInt8.toNat_inj, UInt16.toNat_toUInt8, hnumber]
    omega
  · have hquotient : (low.toNat + 256 * high.toNat) / 256 = high.toNat := by omega
    rw [hnumber, hquotient]
    exact UInt8.ofNat_toNat

/-- Four bytes and an address in front of whatever follows are enough for the fields. -/
theorem ofBytes?_append {length control low high : UInt8} (haddress : address.length = Meter.wireLength)
    (rest : Bytes) :
    ofBytes? ([length, control, low, high] ++ address ++ rest) = some {
      length, control, address
      manufacturer := UInt16.ofNat (low.toNat + 256 * high.toNat)
      controlInfo := rest.head?
      contentLength := rest.length - 1 } := by
  have hlong : ¬ (address ++ rest).length < Meter.wireLength := by
    rw [List.length_append]
    omega
  simp only [List.cons_append, List.nil_append, ofBytes?]
  rw [if_neg hlong, ← haddress, List.drop_left, List.take_left]

/-- The first byte behind the fixed fields and what stands behind that byte are all that is left. -/
theorem isSplitOf_append {f : Fields} {fixed rest : Bytes} (hfixed : fixed.length = fixedLength)
    (hfront : f.front ++ f.address = fixed) (hci : f.controlInfo = rest.head?)
    (hcontent : f.contentLength = rest.length - 1) : f.IsSplitOf (fixed ++ rest) := by
  cases rest with
  | nil =>
    refine ⟨?_, fun hne => absurd hci hne, ?_⟩
    · rw [List.append_nil]
      exact iff_of_true hci hfixed
    · rw [hfront, hci, hcontent]
      simp
  | cons ci content =>
    have hlast : (fixed ++ ci :: content).drop ((fixed ++ ci :: content).length - content.length) =
        content := by
      rw [List.append_cons, List.length_append, Nat.add_sub_cancel, List.drop_left]
    rw [List.length_cons, Nat.add_sub_cancel] at hcontent
    have hlength : (fixed ++ ci :: content).length = content.length + (fixedLength + 1) := by
      rw [List.length_append, List.length_cons, hfixed]
      omega
    refine ⟨iff_of_false ?_ ?_, fun _ => hcontent ▸ hlength.symm, ?_⟩
    · rw [hci]
      exact Option.some_ne_none ci
    · omega
    · rw [hfront, hci, hcontent, hlast, List.head?_cons, Option.toList_some, ← List.append_cons]

/-- Nothing is lost in the fields of bytes with an address behind four bytes. -/
theorem exists_of_prefix (hpattern : pattern.length = 4) (haddress : address.length = Meter.wireLength)
    (h : pattern ++ address <+: bytes) :
    ∃ f, ofBytes? bytes = some f ∧ f.front = pattern ∧ f.address = address ∧ f.IsSplitOf bytes := by
  obtain ⟨rest, rfl⟩ := h
  match pattern, hpattern with
  | [length, control, low, high], _ =>
    have hfront : front ⟨length, control, UInt16.ofNat (low.toNat + 256 * high.toNat), address,
        rest.head?, rest.length - 1⟩ = [length, control, low, high] := by
      rw [front, (manufacturer_bytes low high).1, (manufacturer_bytes low high).2]
    have hfixed : ([length, control, low, high] ++ address).length = fixedLength := by
      rw [List.length_append, haddress]
      rfl
    exact ⟨_, ofBytes?_append haddress rest, hfront, rfl,
      isSplitOf_append hfixed (congrArg (· ++ address) hfront) rfl rfl⟩

end Telegram.Fields

/-! ### Telegrams of the meter -/

namespace Telegram

/-- The fields say of a telegram what was found when it was checked. -/
structure Fields.AgreeWith (f : Fields) (c : Config) (bytes : Bytes) : Prop extends f.IsSplitOf bytes where
  /-- The address is that of the meter which is listened for. -/
  meter?_eq : f.meter? = some c.meter
  /-- The length counts the bytes behind it. -/
  length_add_one : f.length.toNat + 1 = bytes.length
  /-- The bytes in front of the address are the anchor. -/
  front_eq : ∃ s, Anchor.leading? c.anchors bytes = some s ∧ f.front = s.anchor.pattern

end Telegram

open Telegram (Fields)

/-- With anchors of four bytes a telegram has fields, and they name the meter. -/
theorem Config.IsTelegram.exists_fields {c : Config} {bytes : Bytes} (hc : c.IsValid)
    (hfour : ∀ a ∈ c.anchors, a.pattern.length = 4) (h : c.IsTelegram bytes) :
    ∃ f, Fields.ofBytes? bytes = some f ∧ f.AgreeWith c bytes := by
  obtain ⟨s, hs⟩ := h.addressed
  have hleading := Anchor.leading?_eq_some_iff.2 ⟨hs.offset_eq, hs.toIsFirstListed⟩
  obtain ⟨f, hf, hfront, haddress, hsplit⟩ :=
    Fields.exists_of_prefix (hfour s.anchor hs.mem) (show c.meter.wire.length = _ from rfl) hs.followed
  refine ⟨f, hf, hsplit, ?_, ?_, s, hleading, hfront⟩
  · rw [Fields.meter?, haddress]
    exact Meter.ofWire?_wire_of_le (isValid_iff.1 hc).2.1
  · -- The first byte of the anchor is the first byte of the telegram.
    have hhead : bytes.head? = some f.length := by
      have hfirst := hs.occurs.2.getElem?_eq_head? hs.occurs.1
      rw [hs.offset_eq, ← List.head?_eq_getElem?, ← hfront] at hfirst
      exact hfirst
    have hcount := h.countsItself
    have hpos := List.length_pos_iff.2 hcount.ne_nil
    rw [CountsItself, hhead, Option.map_some, Option.some_inj] at hcount
    omega

namespace Receiver

/-- **The fields agree with the checks**: with anchors of four bytes, every telegram that a receiver accepts
has fields; they name its meter, they begin with the anchor that was found, and nothing of the telegram is
lost in them. -/
theorem process_fields {r : Receiver} {n : Notification} {o : Outcome}
    (hfour : ∀ a ∈ r.config.anchors, a.pattern.length = 4) (h : (r.process n).1 = .ok o) :
    ∀ t ∈ o.telegrams, ∃ f, t.fields? = some f ∧ f.AgreeWith r.config t.bytes := by
  intro t ht
  have htelegram := (r.config.isSettled_of_outcome r.isValid (r.process_fst n ▸ h)).isTelegram_of_mem ht
  exact htelegram.exists_fields r.isValid hfour

/-- A configuration for telegrams of ten and of thirteen bytes that wants a single byte of them. -/
def briefConfig : Config :=
  { Config.standard with
    anchors := [⟨[0x09, 0x44, 0x2D, 0x2C], .compact, 10⟩, ⟨[0x0C, 0x44, 0x2D, 0x2C], .full, 13⟩]
    leastTelegram := 1 }

/-- A telegram of each kind, in an envelope. -/
def briefPayload : Bytes :=
  Envelope.wrap <| [0x0C, 0x44, 0x2D, 0x2C] ++ Meter.standard.wire ++ [0x8D, 0x20, 0x00] ++
    ([0x09, 0x44, 0x2D, 0x2C] ++ Meter.standard.wire)

/-- Behind the address of the second telegram there is nothing. -/
theorem process_fields_brief :
    (∀ a ∈ briefConfig.anchors, a.pattern.length = 4) ∧
      ∃ o, ((ofValid briefConfig (by decide)).process (.arriving briefPayload "-")).1 = .ok o ∧
        o.telegrams.map (fun t => (t.bytes.length, t.fields?.map (·.controlInfo))) =
          [(13, some (some 0x8D)), (10, some none)] ∧
            ∀ t ∈ o.telegrams, ∃ f, t.fields? = some f ∧ f.AgreeWith briefConfig t.bytes := by
  have hfour : ∀ a ∈ briefConfig.anchors, a.pattern.length = 4 := by decide
  obtain ⟨o, ho⟩ := Config.exists_outcome
    (show briefConfig.rules.ruleFor briefPayload.length = .ok ⟨.fallback, .multiFrameScan⟩ by decide)
  have hprocess : ((ofValid briefConfig (by decide)).process (.arriving briefPayload "-")).1 = .ok o :=
    (process_fst _ _).trans ho
  have htelegrams : (briefConfig.outcome briefPayload).toOption.map
      (·.telegrams.map fun t => (t.bytes.length, t.fields?.map (·.controlInfo))) =
        some [(13, some (some 0x8D)), (10, some none)] := by decide +kernel
  rw [ho] at htelegrams
  exact ⟨hfour, o, hprocess, Option.some.inj htelegrams, process_fields hfour hprocess⟩

end Receiver

end MeterBridge
