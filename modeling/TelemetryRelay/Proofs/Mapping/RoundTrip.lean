import TelemetryRelay.Proofs.Mapping
import TelemetryRelay.Proofs.Message.Catalogue

/-!
# Out through a table and back in

A table of the standard registry has a frame for every message of the catalogue whose type
it maps and that fits; it refuses the others by the type that has no mapping, or by the
length that is too large.  What comes in with that frame is the message that went out.
-/

namespace TelemetryRelay

open Wire

namespace MappingTable

variable {registry : Registry} {t : MappingTable} {m : Message} {body : Body} {f : Frame}
  {e : BridgeError}

/-- The table has an entry for the type of the message. -/
def Maps (t : MappingTable) (m : Message) : Prop :=
  ∃ entry ∈ t.entries, entry.type.name = m.family.name

/-! ## Which messages have a frame -/

theorem frameOf_of_unmapped (h : ¬ t.Maps m) : t.frameOf m = .error (.unmapped m.family.name) := by
  have hnone : t.byType? m.family = none :=
    find?_beq_eq_none.mpr fun entry hentry hsame => h ⟨entry, hentry, hsame⟩
  rw [frameOf, hnone]

theorem Maps.byType? (h : t.Maps m) :
    ∃ entry ∈ t.entries, t.byType? m.family = some entry ∧ entry.type.name = m.family.name := by
  cases hfound : t.byType? m.family with
  | none =>
      obtain ⟨entry, hentry, hsame⟩ := h
      exact absurd hsame (find?_beq_eq_none.mp hfound entry hentry)
  | some entry =>
      have hsame : entry.type.name = m.family.name := by
        simpa [Family.same] using List.find?_some hfound
      exact ⟨entry, List.mem_of_find?_eq_some hfound, rfl, hsame⟩

theorem frameOf_of_oversized (h : t.Maps m) (hlarge : maxPayload < m.encode.length) :
    t.frameOf m = .error (.frame (.oversized m.encode.length)) := by
  obtain ⟨entry, -, hfound, -⟩ := h.byType?
  rw [frameOf, hfound]
  simp [Frame.make, Nat.not_le.mpr hlarge, Except.mapError]

theorem exists_frameOf (h : t.Maps m) (hfits : m.encode.length ≤ maxPayload) :
    ∃ entry ∈ t.entries, entry.type.name = m.family.name ∧
      t.frameOf m = .ok ⟨entry.tag, m.encode, hfits⟩ := by
  obtain ⟨entry, hentry, hfound, hsame⟩ := h.byType?
  refine ⟨entry, hentry, hsame, ?_⟩
  rw [frameOf, hfound]
  simp [Frame.make, hfits, Except.mapError]

/-- **A message without a frame has no mapping or does not fit.** -/
theorem frameOf_eq_error : t.frameOf m = .error e ↔
    (¬ t.Maps m ∧ e = .unmapped m.family.name) ∨
      (t.Maps m ∧ maxPayload < m.encode.length ∧ e = .frame (.oversized m.encode.length)) := by
  by_cases hmaps : t.Maps m
  · rcases Nat.lt_or_ge maxPayload m.encode.length with hlarge | hfits
    · simp [frameOf_of_oversized hmaps hlarge, hmaps, hlarge, eq_comm]
    · obtain ⟨entry, -, -, hframe⟩ := exists_frameOf hmaps hfits
      simp [hframe, hmaps, Nat.not_lt.mpr hfits]
  · simp [frameOf_of_unmapped hmaps, hmaps, eq_comm]

theorem maps_of_frameOf (h : t.frameOf m = .ok f) :
    t.Maps m ∧ m.encode.length ≤ maxPayload := by
  obtain ⟨entry, hfound, -, hpayload⟩ := frameOf_eq_ok.mp h
  have hsame : entry.type.name = m.family.name := by
    simpa [Family.same] using List.find?_some hfound
  exact ⟨⟨entry, List.mem_of_find?_eq_some hfound, hsame⟩, hpayload ▸ f.fits⟩

/-! ## What comes in again -/

theorem Built.messageOf?_eq_some (h : Built registry t) {entry : MappingEntry}
    (hmem : entry ∈ t.entries) (htag : f.tag = entry.tag)
    (hdecode : entry.type.decode f.payload = .ok m) : t.messageOf? f = some m := by
  have hfound : t.byTag? f.tag = some entry :=
    (find?_beq_eq_some h.tags).mpr ⟨hmem, htag.symm⟩
  rw [messageOf?, hfound, Option.bind_eq_bind, Option.bind_some, hdecode]
  rfl

/-- **What a message goes out as comes in as that message.** -/
theorem Built.messageOf?_frameOf (h : Built .standard t)
    (hframe : t.frameOf (.known body) = .ok f) : t.messageOf? f = some (.known body) := by
  obtain ⟨entry, hfound, htag, hpayload⟩ := frameOf_eq_ok.mp hframe
  obtain ⟨hmem, hsame⟩ := h.byType?_eq_some.mp hfound
  obtain ⟨k, hk⟩ := h.kind hmem
  have hkind : body.kind = k := by
    rw [hk] at hsame
    refine (Kind.isA_family _ _).mp ?_
    rw [Family.isA_of_same hsame]
    exact (Kind.isA_family _ _).mpr rfl
  refine h.messageOf?_eq_some hmem htag ?_
  rw [hk, hpayload]
  exact Kind.decode_family_ok_iff.mpr ⟨body, k.faithful.decode_encode body hkind, rfl⟩

/-- A record of a simulation never fits into a frame. -/
theorem oversized_of_simulationData (h : body.kind = .simulationData) :
    maxPayload < body.encode.length := by
  rw [(Kind.faithful .simulationData).length_encode body h 144 rfl]
  decide

end MappingTable

end TelemetryRelay
