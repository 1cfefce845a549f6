import MeterBridge.Config

/-!
# Valid configurations

What a configuration without fault promises to the rest of the library: its anchors can be found,
their windows have room for the address of the meter and for no more than a telegram, no pattern is
listed twice, the serial number has eight digits, and no telegram is empty. `isValid_iff` says that
a configuration is valid exactly if it keeps all of this and its rule table has no fault.
-/

namespace MeterBridge

/-- The anchor has a pattern, and its window is that of a telegram. -/
structure Anchor.IsUsable (a : Anchor) : Prop where
  /-- The pattern is not empty. -/
  pattern_ne_nil : a.pattern ≠ []
  /-- The window has room for the pattern and the address behind it. -/
  room : a.pattern.length + Meter.wireLength ≤ a.window.toNat
  /-- The window is not longer than a telegram. -/
  window_le : a.window.toNat ≤ longestTelegram

/-- The window of a usable anchor is longer than an address. -/
theorem Anchor.IsUsable.wire_lt_window {a : Anchor} (h : a.IsUsable) :
    Meter.wireLength < a.window.toNat := by
  have hpos := List.length_pos_iff.2 h.pattern_ne_nil
  have hroom := h.room
  omega

namespace Config

theorem anchorFault?_eq_none_iff {anchors : List Anchor} {a : Anchor} {index : Nat} :
    anchorFault? anchors (a, index) = none ↔
      a.IsUsable ∧ ∀ b ∈ anchors.take index, b.pattern ≠ a.pattern := by
  have hany : (anchors.take index).any (·.pattern = a.pattern) = true ↔
      ¬ ∀ b ∈ anchors.take index, b.pattern ≠ a.pattern := by
    simp [List.any_eq_true]
  simp only [anchorFault?]
  constructor
  · intro h
    split at h
    · cases h
    · next hempty =>
      split at h
      · cases h
      · next hnarrow =>
        split at h
        · cases h
        · next hwide =>
          split at h
          · cases h
          · next hrepeated =>
            refine ⟨⟨fun hnil => hempty (List.isEmpty_iff.2 hnil), Nat.le_of_not_lt hnarrow,
              Nat.le_of_not_lt hwide⟩, ?_⟩
            exact Classical.not_not.1 fun hdistinct => hrepeated (hany.2 hdistinct)
  · rintro ⟨⟨hempty, hnarrow, hwide⟩, hdistinct⟩
    rw [if_neg (fun h => hempty (List.isEmpty_iff.1 h)), if_neg (Nat.not_lt.2 hnarrow),
      if_neg (Nat.not_lt.2 hwide), if_neg (fun h => hany.1 h hdistinct)]

theorem anchorsFault?_eq_none_iff {anchors : List Anchor} :
    anchorsFault? anchors = none ↔
      anchors ≠ [] ∧ (∀ a ∈ anchors, a.IsUsable) ∧ anchors.Pairwise (·.pattern ≠ ·.pattern) := by
  have hplaces : anchors.zipIdx.findSome? (anchorFault? anchors) = none ↔
      (∀ a ∈ anchors, a.IsUsable) ∧ anchors.Pairwise (·.pattern ≠ ·.pattern) := by
    rw [List.findSome?_eq_none_iff]
    constructor
    · intro h
      have hplace : ∀ i (hi : i < anchors.length), anchors[i].IsUsable ∧
          ∀ b ∈ anchors.take i, b.pattern ≠ anchors[i].pattern := fun i hi =>
        anchorFault?_eq_none_iff.1
          (h _ (List.mk_mem_zipIdx_iff_getElem?.2 (List.getElem?_eq_getElem hi)))
      refine ⟨fun a ha => ?_, List.pairwise_iff_getElem.2 fun i j hi hj hij => ?_⟩
      · obtain ⟨i, hi, rfl⟩ := List.mem_iff_getElem.1 ha
        exact (hplace i hi).1
      · exact (hplace j hj).2 _ (List.mem_take_iff_getElem.2 ⟨i, by omega, rfl⟩)
    · rintro ⟨husable, hdistinct⟩ ⟨a, i⟩ hmem
      obtain ⟨hi, rfl⟩ := List.getElem?_eq_some_iff.1 (List.mk_mem_zipIdx_iff_getElem?.1 hmem)
      refine anchorFault?_eq_none_iff.2 ⟨husable _ (List.getElem_mem hi), fun b hb => ?_⟩
      obtain ⟨j, hj, rfl⟩ := List.mem_take_iff_getElem.1 hb
      exact List.pairwise_iff_getElem.1 hdistinct j i (by omega) hi (by omega)
  rw [anchorsFault?]
  split
  · next hempty => simp [List.isEmpty_iff.1 hempty]
  · next hempty =>
    rw [hplaces]
    exact ⟨fun h => ⟨fun hnil => hempty (List.isEmpty_iff.2 hnil), h⟩, And.right⟩

/-- **Validity**: the anchors are usable and distinct, the serial number has at most eight digits,
the least length is positive, and the rule table has no fault. -/
theorem isValid_iff {c : Config} :
    c.IsValid ↔
      (c.anchors ≠ [] ∧ (∀ a ∈ c.anchors, a.IsUsable) ∧ c.anchors.Pairwise (·.pattern ≠ ·.pattern)) ∧
        c.meter.serial.toNat ≤ Meter.greatestSerial ∧ 0 < c.leastTelegram.toNat ∧
        c.rules.fault? = none := by
  have hserial : (if Meter.greatestSerial < c.meter.serial.toNat then
      some (ConfigFault.wideSerial c.meter.serial) else none) = none ↔
      c.meter.serial.toNat ≤ Meter.greatestSerial := by simp
  have hleast : (if c.leastTelegram = 0 then some ConfigFault.zeroLeastLength else none) = none ↔
      0 < c.leastTelegram.toNat := by
    simp [Nat.pos_iff_ne_zero, ← UInt64.toNat_inj]
  rw [IsValid, fault?, Option.or_eq_none_iff, Option.or_eq_none_iff, Option.or_eq_none_iff,
    anchorsFault?_eq_none_iff, hserial, hleast]

namespace IsValid

variable {c : Config} (h : c.IsValid)

include h

/-- The anchors of a valid configuration are usable. -/
theorem usable {a : Anchor} (ha : a ∈ c.anchors) : a.IsUsable := (isValid_iff.1 h).1.2.1 a ha

theorem leastTelegram_pos : 0 < c.leastTelegram.toNat := (isValid_iff.1 h).2.2.1

theorem rules : c.rules.fault? = none := (isValid_iff.1 h).2.2.2

end IsValid

end Config

end MeterBridge
