import Mathlib.Data.List.Nodup
import Mathlib.Data.List.TakeWhile
import TelemetryRelay.Mapping

/-!
# Which mappings make a table

A list of settings makes a table exactly when every mapping is right in itself and no two of
them share a name, a tag or a type.  The table then has one entry for each mapping, in order,
and an entry is found by its tag and by its type.
-/

namespace TelemetryRelay

/-! ## Blank texts -/

theorem Text.trimList_eq_nil {p : Char → Bool} {cs : List Char} :
    trimList p cs = [] ↔ ∀ c ∈ cs, p c = true := by
  rw [trimList, List.reverse_eq_nil_iff, List.dropWhile_eq_nil_iff]
  constructor
  · intro h c hc
    rw [← List.takeWhile_append_dropWhile (p := p) (l := cs)] at hc
    rcases List.mem_append.mp hc with hc | hc
    · exact List.mem_takeWhile_imp hc
    · exact h c (List.mem_reverse.mpr hc)
  · intro h c hc
    exact h c ((List.dropWhile_suffix p).subset (List.mem_reverse.mp hc))

/-- Something is left of a text unless it is blank throughout. -/
theorem Text.trimmed_ne_empty {s : String} :
    trimmed s ≠ "" ↔ ∃ c ∈ s.toList, isBlank c = false := by
  have hempty : trimmed s = "" ↔ trimList isBlank s.toList = [] := by
    rw [trimmed, ← String.toList_eq_nil_iff, String.toList_ofList]
  rw [Ne, hempty, trimList_eq_nil]
  simp

/-! ## Looking up by a key -/

section Keys

variable {α β : Type} [BEq β] [LawfulBEq β] {key : α → β} {l : List α} {a : α} {b : β}

theorem find?_beq_eq_none : l.find? (key · == b) = none ↔ ∀ a ∈ l, key a ≠ b := by
  simp

/-- Where every key stands once, what is found is what has the key. -/
theorem find?_beq_eq_some (hkeys : l.Pairwise fun a a' => key a ≠ key a') :
    l.find? (key · == b) = some a ↔ a ∈ l ∧ key a = b := by
  constructor
  · intro hfound
    exact ⟨List.mem_of_find?_eq_some hfound, by simpa using List.find?_some hfound⟩
  · rintro ⟨hmem, rfl⟩
    induction l with
    | nil => cases hmem
    | cons a' l ih =>
        obtain ⟨hfirst, hrest⟩ := List.pairwise_cons.mp hkeys
        rcases List.mem_cons.mp hmem with rfl | hmem
        · simp
        · rw [List.find?_cons_of_neg (by simpa using hfirst a hmem)]
          exact ih hrest hmem

end Keys

namespace MappingTable

variable {registry : Registry} {t t' : MappingTable} {config : MappingConfig}
  {configs : List MappingConfig} {entry : MappingEntry} {entries : List MappingEntry}

/-! ## What a mapping stands for -/

/-- The entry is what the mapping at that position of the list stands for. -/
structure Resolves (registry : Registry) (position : Nat) (config : MappingConfig)
    (entry : MappingEntry) : Prop where
  name : entry.name = effectiveName position config
  tag : config.tag = some (entry.tag.toNat : Int)
  positive : 1 ≤ entry.tag.toNat
  type : ∃ className, config.className = some className ∧
    (∃ c ∈ className.toList, Text.isBlank c = false) ∧
    registry.get? (Text.trimmed className) = some entry.type
  message : entry.type.isMessage = true
  decodes : entry.type.isAbstract = false
  advertise : entry.advertise = config.advertise

/-- The name of the type that a mapping leads to. -/
def typeName? (registry : Registry) (config : MappingConfig) : Option String :=
  config.className.bind fun className =>
    (registry.get? (Text.trimmed className)).map Family.name

/-- Entries that share neither name nor tag nor type. -/
def Apart (e e' : MappingEntry) : Prop :=
  e.name ≠ e'.name ∧ e.tag ≠ e'.tag ∧ e.type.name ≠ e'.type.name

/-- The entries are those of the mappings, the first of which stands at `position`. -/
inductive Reads (registry : Registry) : Nat → List MappingConfig → List MappingEntry → Prop
  | nil {position : Nat} : Reads registry position [] []
  | cons {position : Nat} {config : MappingConfig} {configs : List MappingConfig}
      {entry : MappingEntry} {entries : List MappingEntry}
      (head : Resolves registry position config entry)
      (tail : Reads registry (position + 1) configs entries) :
      Reads registry position (config :: configs) (entry :: entries)

theorem checkTag_eq_ok {mapping : String} {tag? : Option Int} {tag : UInt8} :
    checkTag mapping tag? = .ok tag ↔ tag? = some (tag.toNat : Int) ∧ 1 ≤ tag.toNat := by
  unfold checkTag
  rcases tag? with - | n
  · simp
  have hsize := tag.toNat_lt
  by_cases hpositive : n ≤ 0
  · simp only [hpositive, if_true, Option.some.injEq, reduceCtorEq, false_iff]
    omega
  by_cases hlarge : 255 < n
  · simp only [hpositive, hlarge, if_true, if_false, Option.some.injEq, reduceCtorEq, false_iff]
    omega
  · simp only [hpositive, hlarge, if_false, Option.some.injEq, Except.ok.injEq]
    constructor
    · rintro rfl
      have hbyte : (UInt8.ofNat n.toNat).toNat = n.toNat := by
        rw [UInt8.toNat_ofNat']
        omega
      rw [hbyte]
      omega
    · rintro ⟨rfl, -⟩
      simp

theorem checkClass_eq_ok {mapping : String} {className? : Option String} {type : Family} :
    checkClass registry mapping className? = .ok type ↔
      (∃ className, className? = some className ∧
        (∃ c ∈ className.toList, Text.isBlank c = false) ∧
        registry.get? (Text.trimmed className) = some type) ∧
      type.isMessage = true ∧ type.isAbstract = false := by
  unfold checkClass
  rcases className? with - | className
  · have hblank : (Text.trimmed "").isEmpty = true := by decide
    simp [hblank]
  simp only [Option.getD_some, Option.some.injEq, exists_eq_left', ← Text.trimmed_ne_empty]
  by_cases hblank : Text.trimmed className = ""
  · simp [hblank]
  have hnonempty : (Text.trimmed className).isEmpty = false := by simpa using hblank
  simp only [hnonempty, Ne, hblank, not_false_eq_true, true_and]
  rcases registry.get? (Text.trimmed className) with - | known
  · simp
  show (if !known.isMessage then _ else if known.isAbstract then _ else Except.ok known) = _ ↔ _
  constructor
  · intro h
    split at h
    · cases h
    · rename_i hmessage
      split at h
      · cases h
      · rename_i hdecodes
        obtain rfl := Except.ok.inj h
        exact ⟨rfl, by simpa using hmessage, by simpa using hdecodes⟩
  · rintro ⟨hknown, hmessage, hdecodes⟩
    obtain rfl := Option.some.inj hknown
    simp [hmessage, hdecodes]

/-! ## One mapping after the other -/

/-- A mapping is accepted if it stands for an entry that is apart from those before it. -/
theorem accept_eq_ok : accept registry t config = .ok t' ↔
    ∃ entry, t' = ⟨t.entries ++ [entry]⟩ ∧ Resolves registry t.entries.length config entry ∧
      ∀ e ∈ t.entries, Apart e entry := by
  unfold accept
  generalize hmapping : effectiveName t.entries.length config = mapping
  dsimp only
  constructor
  · intro h
    split at h
    · cases h
    rename_i hname
    rcases htag : checkTag mapping config.tag with e | tag
    · simp [htag, bind, Except.bind] at h
    rcases htype : checkClass registry mapping config.className with e | type
    · simp [htag, htype, bind, Except.bind] at h
    simp only [htag, htype, bind, Except.bind] at h
    split at h
    · cases h
    · cases h
    rename_i hnoTag hnoType
    obtain ⟨hconfigured, hpositive⟩ := checkTag_eq_ok.mp htag
    obtain ⟨hclass, hmessage, hdecodes⟩ := checkClass_eq_ok.mp htype
    refine ⟨_, (Except.ok.inj h).symm,
      ⟨hmapping.symm, hconfigured, hpositive, hclass, hmessage, hdecodes, rfl⟩, ?_⟩
    intro e he
    exact ⟨by simpa using fun h => hname (List.any_eq_true.mpr ⟨e, he, by simpa using h⟩),
      find?_beq_eq_none.mp hnoTag e he, find?_beq_eq_none.mp hnoType e he⟩
  · rintro ⟨entry, rfl, hentry, hapart⟩
    have hname : t.entries.any (·.name == mapping) = false := by
      rw [List.any_eq_false]
      intro e he
      rw [← hmapping, ← hentry.name]
      simpa using (hapart e he).1
    have htag : checkTag mapping config.tag = .ok entry.tag :=
      checkTag_eq_ok.mpr ⟨hentry.tag, hentry.positive⟩
    have htype : checkClass registry mapping config.className = .ok entry.type :=
      checkClass_eq_ok.mpr ⟨hentry.type, hentry.message, hentry.decodes⟩
    have hnoTag : t.byTag? entry.tag = none :=
      find?_beq_eq_none.mpr fun e he => (hapart e he).2.1
    have hnoType : t.byType? entry.type = none :=
      find?_beq_eq_none.mpr fun e he => (hapart e he).2.2
    simp only [hname, htag, htype, hnoTag, hnoType, bind, Except.bind, Bool.false_eq_true,
      if_false, pure, Except.pure, Except.ok.injEq]
    rw [← hmapping, ← hentry.name, ← hentry.advertise]

theorem foldlM_accept_cons : (config :: configs).foldlM (accept registry) t = .ok t' ↔
    ∃ t₁, accept registry t config = .ok t₁ ∧ configs.foldlM (accept registry) t₁ = .ok t' := by
  rw [List.foldlM_cons]
  rcases accept registry t config with e | t₁
  · simp [bind, Except.bind]
  · simp [bind, Except.bind]

/-- **Mappings are accepted one after the other if they stand for entries that are apart from
each other and from those before them.** -/
theorem foldlM_accept_eq_ok (hapart : t.entries.Pairwise Apart) :
    configs.foldlM (accept registry) t = .ok t' ↔
      ∃ entries, t' = ⟨t.entries ++ entries⟩ ∧ Reads registry t.entries.length configs entries ∧
        (t.entries ++ entries).Pairwise Apart := by
  induction configs generalizing t with
  | nil =>
      constructor
      · intro h
        obtain rfl := Except.ok.inj h
        exact ⟨[], by rw [List.append_nil], .nil, by rwa [List.append_nil]⟩
      · rintro ⟨entries, rfl, hreads, -⟩
        obtain - | _ := hreads
        rw [List.append_nil]
        rfl
  | cons config configs ih =>
      have hsnoc {entry : MappingEntry} (hnew : ∀ e ∈ t.entries, Apart e entry) :
          (t.entries ++ [entry]).Pairwise Apart :=
        List.pairwise_append.mpr ⟨hapart, List.pairwise_singleton .., by simpa using hnew⟩
      rw [foldlM_accept_cons]
      constructor
      · rintro ⟨t₁, haccept, hrest⟩
        obtain ⟨entry, rfl, hentry, hnew⟩ := accept_eq_ok.mp haccept
        obtain ⟨entries, rfl, hreads, hall⟩ := (ih (hsnoc hnew)).mp hrest
        refine ⟨entry :: entries, by simp, .cons hentry ?_, by simpa using hall⟩
        simpa using hreads
      · rintro ⟨entries, rfl, hreads, hall⟩
        obtain - | ⟨hentry, htail⟩ := hreads
        rename_i entry entries
        have hnew : ∀ e ∈ t.entries, Apart e entry := fun e he =>
          (List.pairwise_append.mp hall).2.2 e he entry (List.mem_cons_self ..)
        refine ⟨_, accept_eq_ok.mpr ⟨entry, rfl, hentry, hnew⟩, (ih (hsnoc hnew)).mpr ?_⟩
        exact ⟨entries, by simp, by simpa using htail, by simpa using hall⟩

theorem build_eq_ok : build registry configs = .ok t ↔
    configs ≠ [] ∧ Reads registry 0 configs t.entries ∧ t.entries.Pairwise Apart := by
  unfold build
  rcases configs with - | ⟨config, configs⟩
  · simp
  show List.foldlM (accept registry) ⟨[]⟩ (config :: configs) = .ok t ↔ _
  rw [foldlM_accept_eq_ok List.Pairwise.nil]
  constructor
  · rintro ⟨entries, rfl, hreads, hapart⟩
    exact ⟨by simp, hreads, hapart⟩
  · rintro ⟨-, hreads, hapart⟩
    exact ⟨t.entries, rfl, hreads, hapart⟩

/-! ## The settings as a whole -/

/-- The settings that make a table. -/
structure Valid (registry : Registry) (configs : List MappingConfig) : Prop where
  nonempty : configs ≠ []
  names : (configs.mapIdx effectiveName).Nodup
  tagged : ∀ config ∈ configs, ∃ tag, config.tag = some tag ∧ 1 ≤ tag ∧ tag ≤ 255
  classed : ∀ config ∈ configs, ∃ className, config.className = some className ∧
    (∃ c ∈ className.toList, Text.isBlank c = false) ∧
    ∃ type, registry.get? (Text.trimmed className) = some type ∧
      type.isMessage = true ∧ type.isAbstract = false
  tags : (configs.map (·.tag)).Nodup
  types : (configs.map (typeName? registry)).Nodup

theorem pairwise_apart : entries.Pairwise Apart ↔ (entries.map (·.name)).Nodup ∧
    (entries.map (·.tag)).Nodup ∧ (entries.map (·.type.name)).Nodup := by
  simp only [List.Nodup, List.pairwise_map, ← List.pairwise_and_iff]
  rfl

namespace Reads

variable {position : Nat}

theorem names (h : Reads registry position configs entries) :
    entries.map (·.name) = configs.mapIdx fun k => effectiveName (position + k) := by
  induction h with
  | nil => rfl
  | cons head tail ih =>
      rw [List.map_cons, List.mapIdx_cons, head.name, ih]
      simp only [Nat.add_zero, Nat.add_assoc, Nat.add_comm 1]

theorem tags (h : Reads registry position configs entries) :
    configs.map (·.tag) = (entries.map (·.tag)).map fun tag => some (tag.toNat : Int) := by
  induction h with
  | nil => rfl
  | cons head tail ih => simp only [List.map_cons, head.tag, ih]

theorem types (h : Reads registry position configs entries) :
    configs.map (typeName? registry) = (entries.map (·.type.name)).map some := by
  induction h with
  | nil => rfl
  | cons head tail ih =>
      obtain ⟨className, hclass, -, hknown⟩ := head.type
      simp only [List.map_cons, ih, typeName?, hclass, hknown, Option.bind_some, Option.map_some]

theorem length_eq (h : Reads registry position configs entries) :
    entries.length = configs.length := by
  induction h with
  | nil => rfl
  | cons head tail ih => rw [List.length_cons, List.length_cons, ih]

/-- The entry of a mapping stands where the mapping does. -/
theorem resolves (h : Reads registry position configs entries) {k : Nat}
    (hconfig : configs[k]? = some config) :
    ∃ entry, entries[k]? = some entry ∧ Resolves registry (position + k) config entry := by
  induction h generalizing k with
  | nil => simp at hconfig
  | cons head tail ih =>
      rcases k with - | k
      · obtain rfl := Option.some.inj hconfig
        exact ⟨_, rfl, head⟩
      · obtain ⟨entry, hentry, hresolves⟩ := ih (by simpa using hconfig)
        refine ⟨entry, by simpa using hentry, ?_⟩
        rwa [Nat.add_assoc, Nat.add_comm 1] at hresolves

/-- Settings that are right one by one have entries. -/
theorem of_valid (htagged : ∀ config ∈ configs, ∃ tag, config.tag = some tag ∧ 1 ≤ tag ∧ tag ≤ 255)
    (hclassed : ∀ config ∈ configs, ∃ className, config.className = some className ∧
      (∃ c ∈ className.toList, Text.isBlank c = false) ∧
      ∃ type, registry.get? (Text.trimmed className) = some type ∧
        type.isMessage = true ∧ type.isAbstract = false) :
    ∃ entries, Reads registry position configs entries := by
  induction configs generalizing position with
  | nil => exact ⟨[], .nil⟩
  | cons config configs ih =>
      obtain ⟨tag, htag, hpositive, hsmall⟩ := htagged config (List.mem_cons_self ..)
      obtain ⟨className, hclass, hblank, type, hknown, hmessage, hdecodes⟩ :=
        hclassed config (List.mem_cons_self ..)
      obtain ⟨entries, hentries⟩ : ∃ entries, Reads registry (position + 1) configs entries :=
        ih (fun c hc => htagged c (List.mem_cons_of_mem _ hc))
          (fun c hc => hclassed c (List.mem_cons_of_mem _ hc))
      have hbyte : (UInt8.ofNat tag.toNat).toNat = tag.toNat := by
        rw [UInt8.toNat_ofNat']
        omega
      refine ⟨⟨effectiveName position config, UInt8.ofNat tag.toNat, type, config.advertise⟩ ::
        entries, .cons ⟨rfl, ?_, ?_, ⟨className, hclass, hblank, hknown⟩, hmessage, hdecodes, rfl⟩
        hentries⟩
      · rw [hbyte, htag, Int.toNat_of_nonneg (by omega)]
      · rw [hbyte]
        omega

/-- Mappings that have entries are right one by one. -/
theorem each (h : Reads registry position configs entries) (hmem : config ∈ configs) :
    ∃ position entry, Resolves registry position config entry := by
  induction h with
  | nil => cases hmem
  | cons head tail ih =>
      rcases List.mem_cons.mp hmem with rfl | hmem
      · exact ⟨_, _, head⟩
      · exact ih hmem

/-- Every entry is that of a mapping. -/
theorem of_mem (h : Reads registry position configs entries) (hmem : entry ∈ entries) :
    ∃ position config, Resolves registry position config entry := by
  induction h with
  | nil => cases hmem
  | cons head tail ih =>
      rcases List.mem_cons.mp hmem with rfl | hmem
      · exact ⟨_, _, head⟩
      · exact ih hmem

/-- The entries are apart if the settings repeat neither a name nor a tag nor a type. -/
theorem apart_iff (h : Reads registry 0 configs entries) : entries.Pairwise Apart ↔
    (configs.mapIdx effectiveName).Nodup ∧ (configs.map (·.tag)).Nodup ∧
      (configs.map (typeName? registry)).Nodup := by
  have htag : Function.Injective fun tag : UInt8 => some (tag.toNat : Int) := by
    intro tag tag' hsame
    exact UInt8.toNat.inj (Int.ofNat.inj (Option.some.inj hsame))
  have hnames := h.names
  simp only [Nat.zero_add] at hnames
  rw [pairwise_apart, hnames, h.tags, h.types, List.nodup_map_iff htag,
    List.nodup_map_iff fun _ _ => Option.some.inj]

end Reads

/-- **Settings make a table exactly when each of them is right and none repeats another.** -/
theorem exists_build : (∃ t, build registry configs = .ok t) ↔ Valid registry configs := by
  simp only [build_eq_ok]
  constructor
  · rintro ⟨t, hnonempty, hreads, hapart⟩
    obtain ⟨hnames, htags, htypes⟩ := hreads.apart_iff.mp hapart
    refine ⟨hnonempty, hnames, ?_, ?_, htags, htypes⟩
    · intro config hconfig
      obtain ⟨_, entry, hentry⟩ := hreads.each hconfig
      have hsize := entry.tag.toNat_lt
      have hpositive := hentry.positive
      exact ⟨entry.tag.toNat, hentry.tag, by omega, by omega⟩
    · intro config hconfig
      obtain ⟨_, entry, hentry⟩ := hreads.each hconfig
      obtain ⟨className, hclass, hblank, hknown⟩ := hentry.type
      exact ⟨className, hclass, hblank, entry.type, hknown, hentry.message, hentry.decodes⟩
  · intro h
    obtain ⟨entries, hreads⟩ := Reads.of_valid h.tagged h.classed
    exact ⟨⟨entries⟩, h.nonempty, hreads, hreads.apart_iff.mpr ⟨h.names, h.tags, h.types⟩⟩

/-! ## Tables -/

/-- The table has the entries of the mappings in their order, and each of them is what is found
by its tag and by its type. -/
structure Represents (registry : Registry) (configs : List MappingConfig) (t : MappingTable) :
    Prop where
  length_eq : t.entries.length = configs.length
  entries : ∀ (k : Nat) (config : MappingConfig), configs[k]? = some config →
    ∃ entry, t.entries[k]? = some entry ∧ Resolves registry k config entry
  byTag : ∀ (tag : UInt8) (entry : MappingEntry),
    t.byTag? tag = some entry ↔ entry ∈ t.entries ∧ entry.tag = tag
  noTag : ∀ tag : UInt8, t.byTag? tag = none ↔ ∀ entry ∈ t.entries, entry.tag ≠ tag
  byType : ∀ (type : Family) (entry : MappingEntry),
    t.byType? type = some entry ↔ entry ∈ t.entries ∧ entry.type.name = type.name
  noType : ∀ type : Family,
    t.byType? type = none ↔ ∀ entry ∈ t.entries, entry.type.name ≠ type.name
  inverse : ∀ entry ∈ t.entries,
    t.byTag? entry.tag = some entry ∧ t.byType? entry.type = some entry

theorem represents_of_build (h : build registry configs = .ok t) :
    Represents registry configs t := by
  obtain ⟨-, hreads, hapart⟩ := build_eq_ok.mp h
  have htags : t.entries.Pairwise fun e e' => e.tag ≠ e'.tag := hapart.imp fun h => h.2.1
  have htypes : t.entries.Pairwise fun e e' => e.type.name ≠ e'.type.name :=
    hapart.imp fun h => h.2.2
  constructor
  · exact hreads.length_eq
  · intro k config hconfig
    simpa using hreads.resolves hconfig
  · intro tag entry
    exact find?_beq_eq_some htags
  · intro tag
    exact find?_beq_eq_none
  · intro type entry
    exact find?_beq_eq_some htypes
  · intro type
    exact find?_beq_eq_none
  · intro entry hentry
    exact ⟨(find?_beq_eq_some htags).mpr ⟨hentry, rfl⟩,
      (find?_beq_eq_some htypes).mpr ⟨hentry, rfl⟩⟩

/-- **A mapping table is a validated correspondence between tags and types.**  It is built
exactly from settings each of which is right and none of which repeats a name, a tag or a type,
where a mapping without a name is called by its position; it has their entries in order, and
its two look-ups find exactly these. -/
theorem build_correspondence (registry : Registry) (configs : List MappingConfig) :
    ((∃ t, build registry configs = .ok t) ↔ Valid registry configs) ∧
      ∀ t, build registry configs = .ok t → Represents registry configs t :=
  ⟨exists_build, fun _ => represents_of_build⟩

/-- Two mappings: the first one has the name that an unnamed third one would have, and its
class name stands between blanks. -/
def labelled : List MappingConfig :=
  [{ name := "#3", tag := some 7, className := some " SensorData\t", advertise := true },
    { tag := some 255, className := some "PilotData" }]

theorem labelled_correspondence : ∃ t, build .standard labelled = .ok t ∧
    Represents .standard labelled t ∧ t.entries.map (·.name) = ["#3", "#2"] := by
  refine ⟨_, rfl, (build_correspondence .standard labelled).2 _ rfl, ?_⟩
  decide +kernel

/-- An unnamed mapping clashes with one that is named after its position. -/
example : ∃ e, build .standard (labelled ++ [{ tag := some 8, className := some "Laser" }]) =
    .error e ∧ e = .duplicateName "#3" :=
  ⟨_, rfl, by decide +kernel⟩

end MappingTable

end TelemetryRelay
