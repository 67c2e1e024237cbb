import TelemetryRelay.Bridge
import TelemetryRelay.Proofs.Bus.History
import TelemetryRelay.Proofs.Mapping.Building
import TelemetryRelay.Proofs.Message.Layout

/-!
# What a mapping table guarantees

A table that was built has every tag and every type once, and its types are those of
the registry that can be decoded.  In a table of the standard registry no type is a
member of another, so a message that has come in under a tag goes out under the same
tag, and it goes out if and only if that mapping is advertised.
-/

namespace TelemetryRelay

open Wire

/-! ## Kinds -/

namespace Kind

theorem mem_all (k : Kind) : k ∈ all := by cases k <;> decide

/-- No kind is a member of another one. -/
theorem isA_family (k k' : Kind) : k.family.isA k'.family = true ↔ k = k' := by
  have hall : ∀ k ∈ all, ∀ k' ∈ all, k.family.isA k'.family = decide (k = k') := by
    decide +kernel
  rw [hall k k.mem_all k' k'.mem_all, decide_eq_true_iff]

theorem isMessage_family (k : Kind) : k.family.isMessage = true := by cases k <;> rfl

theorem kind_of_decode {k : Kind} {payload : Bytes} {body : Body}
    (h : k.decode payload = .ok body) : body.kind = k := by
  cases k with
  | pilotData =>
      cases h
      rfl
  | _ =>
      obtain ⟨_, -, rfl⟩ := exists_of_map_ok h
      rfl

/-- A payload of a kind decodes to a message of its family. -/
theorem family_of_decode {k : Kind} {payload : Bytes} {m : Message}
    (h : k.family.decode payload = .ok m) : m.family = k.family := by
  rw [decode_family] at h
  obtain ⟨body, hbody, rfl⟩ := exists_of_map_ok h
  rw [Message.family, kind_of_decode hbody]

end Kind

/-- What the standard registry knows and can decode is one of the kinds. -/
theorem Registry.kind_of_standard {name : String} {type : Family}
    (hknown : standard.get? name = some type) (hdecodes : type.isAbstract = false) :
    ∃ k : Kind, type = k.family := by
  have hcatalogue : standard.families = Family.catalogue := by rfl
  have hmem : type ∈ Family.catalogue := by
    rw [← hcatalogue]
    exact List.mem_of_find?_eq_some hknown
  rcases List.mem_cons.mp hmem with rfl | hmem
  · cases hdecodes
  · rcases List.mem_cons.mp hmem with rfl | hmem
    · cases hdecodes
    · obtain ⟨k, -, rfl⟩ := List.mem_map.mp hmem
      exact ⟨k, rfl⟩

namespace MappingTable

variable {registry : Registry} {t : MappingTable} {configs : List MappingConfig}
  {entry : MappingEntry} {m : Message}

/-! ## Tables that were built -/

/-- Every tag and every type stands once, and the types are known messages that can be decoded. -/
structure Built (registry : Registry) (t : MappingTable) : Prop where
  known : ∀ entry ∈ t.entries, ∃ name, registry.get? name = some entry.type
  decodes : ∀ entry ∈ t.entries, entry.type.isAbstract = false
  messages : ∀ entry ∈ t.entries, entry.type.isMessage = true
  tags : t.entries.Pairwise fun entry entry' => entry.tag ≠ entry'.tag
  types : t.entries.Pairwise fun entry entry' => entry.type.same entry'.type = false

/-- **A table that was built has every tag and every type once.** -/
theorem built_of_build (h : build registry configs = .ok t) : Built registry t := by
  obtain ⟨-, hreads, hapart⟩ := build_eq_ok.mp h
  have heach : ∀ entry ∈ t.entries, ∃ position config, Resolves registry position config entry :=
    fun _ => hreads.of_mem
  constructor
  · intro entry hentry
    obtain ⟨_, _, hresolves⟩ := heach entry hentry
    obtain ⟨className, -, -, hknown⟩ := hresolves.type
    exact ⟨_, hknown⟩
  · intro entry hentry
    obtain ⟨_, _, hresolves⟩ := heach entry hentry
    exact hresolves.decodes
  · intro entry hentry
    obtain ⟨_, _, hresolves⟩ := heach entry hentry
    exact hresolves.message
  · exact hapart.imp fun h => h.2.1
  · exact hapart.imp fun h => by simpa [Family.same] using h.2.2

theorem Built.byType?_eq_some {type : Family} (h : Built registry t) : t.byType? type = some entry ↔
    entry ∈ t.entries ∧ entry.type.same type = true := by
  have htypes : t.entries.Pairwise fun e e' => e.type.name ≠ e'.type.name :=
    h.types.imp fun hsame => by simpa [Family.same] using hsame
  rw [byType?, Family.same, beq_iff_eq]
  exact find?_beq_eq_some htypes

/-- What is found by its tag is found by its type. -/
theorem Built.byType?_of_mem (h : Built registry t) (hmem : entry ∈ t.entries) :
    t.byType? entry.type = some entry :=
  h.byType?_eq_some.mpr ⟨hmem, by simp [Family.same]⟩

/-! ## What becomes of a frame -/

/-- The frame that the others are sent for a frame, if its tag is mapped and advertised, its
payload can be decoded, and what it decodes to fits into a frame again. -/
def relay? (t : MappingTable) (f : Frame) : Option Frame := do
  let entry ← t.byTag? f.tag
  let message ← (entry.type.decode f.payload).toOption
  if fits : entry.advertise = true ∧ message.encode.length ≤ maxPayload then
    some ⟨f.tag, message.encode, fits.2⟩
  else none

/-- The types that are advertised. -/
def interests (t : MappingTable) : List Family := t.advertised.map (·.type)

/-- Whether bridges of this table listen to messages of that type. -/
def listens (t : MappingTable) (type : Family) : Bool := t.interests.any type.isA

theorem toOption_mapError {ε ε' α : Type} (f : ε → ε') (e : Except ε α) :
    (e.mapError f).toOption = e.toOption := by
  cases e <;> rfl

/-- The frame that a message goes out as, if bridges listen to it. -/
def carries? (t : MappingTable) (m : Message) : Option Frame :=
  if t.listens m.family then (t.frameOf m).toOption else none

/-- Whether the subscriptions of a bridge of this table take in messages of that type.  One to
the root takes the place of the others. -/
def hears (t : MappingTable) (type : Family) : Bool :=
  if t.interests.any (·.same Family.anyMessage) then type.isMessage else t.listens type

/-- The frame that a bridge of this table sends for a message that somebody else publishes. -/
def outbound? (t : MappingTable) (m : Message) : Option Frame :=
  if t.hears m.family then (t.frameOf m).toOption else none

variable {type : Family}

theorem listens_iff : t.listens type = true ↔
    ∃ entry ∈ t.entries, entry.advertise = true ∧ type.isA entry.type = true := by
  simp [listens, interests, advertised]

theorem listens_of_root (hroot : t.interests.any (·.same Family.anyMessage) = true)
    (hrooted : type.isMessage = true) : t.listens type = true := by
  obtain ⟨f, hf, hname⟩ := List.any_eq_true.mp hroot
  exact List.any_eq_true.mpr ⟨f, hf, by rw [Family.isA_of_same hname]; exact hrooted⟩

theorem listens_of_hears (h : t.hears type = true) : t.listens type = true := by
  unfold hears at h
  split at h
  · rename_i hroot
    exact listens_of_root hroot h
  · exact h

theorem hears_of_rooted (hrooted : type.isMessage = true) : t.hears type = t.listens type := by
  unfold hears
  split
  · rename_i hroot
    rw [hrooted, listens_of_root hroot hrooted]
  · rfl

theorem frameOf_eq_ok {f : Frame} : t.frameOf m = .ok f ↔
    ∃ entry, t.byType? m.family = some entry ∧ f.tag = entry.tag ∧ f.payload = m.encode := by
  unfold frameOf Frame.make
  cases t.byType? m.family with
  | none => simp
  | some entry =>
      by_cases hfits : m.encode.length ≤ maxPayload
      · obtain ⟨tag, payload, hpayload⟩ := f
        simp only [hfits, dif_pos, Except.mapError, Except.ok.injEq, Frame.mk.injEq,
          Option.some.injEq, exists_eq_left']
        exact and_congr eq_comm eq_comm
      · simp only [hfits, dif_neg, not_false_eq_true, Except.mapError, reduceCtorEq, false_iff]
        rintro ⟨entry', -, -, hpayload⟩
        exact hfits (hpayload ▸ f.fits)

/-- A message goes out if its type is taken in and mapped and it fits into a frame. -/
theorem Built.outbound?_eq_some (h : Built registry t) {f : Frame} :
    t.outbound? m = some f ↔ t.hears m.family = true ∧ ∃ entry ∈ t.entries,
      entry.type.same m.family = true ∧ f.tag = entry.tag ∧ f.payload = m.encode := by
  rw [outbound?, Option.ite_none_right_eq_some]
  refine and_congr_right fun _ => ?_
  have hframe : (t.frameOf m).toOption = some f ↔ t.frameOf m = .ok f := by
    cases t.frameOf m <;> simp [Except.toOption]
  rw [hframe, frameOf_eq_ok]
  simp only [h.byType?_eq_some, and_assoc]

theorem Built.outbound?_isSome (h : Built registry t) : (t.outbound? m).isSome = true ↔
    t.hears m.family = true ∧ (∃ entry ∈ t.entries, entry.type.same m.family = true) ∧
      m.encode.length ≤ maxPayload := by
  rw [Option.isSome_iff_exists]
  simp only [h.outbound?_eq_some]
  constructor
  · rintro ⟨f, hhears, entry, hmem, hsame, -, hpayload⟩
    exact ⟨hhears, ⟨entry, hmem, hsame⟩, hpayload ▸ f.fits⟩
  · rintro ⟨hhears, ⟨entry, hmem, hsame⟩, hfits⟩
    exact ⟨⟨entry.tag, m.encode, hfits⟩, hhears, entry, hmem, hsame, rfl, rfl⟩

theorem Built.kind (h : Built .standard t) (hmem : entry ∈ t.entries) :
    ∃ k : Kind, entry.type = k.family := by
  obtain ⟨name, hknown⟩ := h.known entry hmem
  exact Registry.kind_of_standard hknown (h.decodes entry hmem)

/-- Whatever a frame carries is a message. -/
theorem Built.rooted {f : Frame} (h : Built .standard t) (hcarries : t.messageOf? f = some m) :
    m.family.isMessage = true := by
  obtain ⟨entry, hentry, hcarries⟩ := Option.bind_eq_some_iff.mp hcarries
  obtain ⟨k, hk⟩ := h.kind (List.mem_of_find?_eq_some hentry)
  cases hdecode : entry.type.decode f.payload with
  | error e =>
      rw [hdecode] at hcarries
      cases hcarries
  | ok m' =>
      rw [hdecode] at hcarries
      cases hcarries
      rw [hk] at hdecode
      rw [Kind.family_of_decode hdecode]
      exact k.isMessage_family

/-- In a table of kinds only the mapping of its own type makes bridges listen to a message. -/
theorem Built.listens_eq (h : Built .standard t) (hmem : entry ∈ t.entries) :
    t.listens entry.type = entry.advertise := by
  obtain ⟨k, hk⟩ := h.kind hmem
  rw [Bool.eq_iff_iff]
  simp only [listens, interests, advertised, List.any_map, List.any_eq_true, List.mem_filter,
    Function.comp_apply]
  constructor
  · rintro ⟨entry', ⟨hmem', hadvertise⟩, hmember⟩
    obtain ⟨k', hk'⟩ := h.kind hmem'
    rw [hk, hk', Kind.isA_family] at hmember
    have hsame : entry'.type = entry.type := by rw [hk, hk', hmember]
    have hfound := h.byType?_of_mem hmem'
    rw [hsame, h.byType?_of_mem hmem] at hfound
    cases hfound
    exact hadvertise
  · intro hadvertise
    exact ⟨entry, ⟨hmem, hadvertise⟩, by rw [hk, Kind.isA_family]⟩

/-- **A frame becomes what the message that it carries goes out as.** -/
theorem Built.relay?_eq (h : Built .standard t) (f : Frame) :
    t.relay? f = (t.messageOf? f).bind t.carries? := by
  unfold relay? messageOf?
  cases hentry : t.byTag? f.tag with
  | none => rfl
  | some entry =>
      have hmem : entry ∈ t.entries := List.mem_of_find?_eq_some hentry
      have htag : entry.tag = f.tag := by simpa using List.find?_some hentry
      obtain ⟨k, hk⟩ := h.kind hmem
      simp only [Option.bind_eq_bind, Option.bind_some]
      cases hdecode : entry.type.decode f.payload with
      | error e => rfl
      | ok m =>
          have hfamily : m.family = entry.type := by
            rw [hk] at hdecode ⊢
            exact Kind.family_of_decode hdecode
          show _ = t.carries? m
          unfold carries? frameOf
          rw [hfamily, h.listens_eq hmem, h.byType?_of_mem hmem]
          simp only [toOption_mapError, Frame.make, htag]
          simp only [Except.toOption, Option.bind_some]
          by_cases hadvertise : entry.advertise = true <;>
            by_cases hfits : m.encode.length ≤ maxPayload <;>
            simp [hadvertise, hfits]

end MappingTable

end TelemetryRelay
