import TelemetryRelay.Proofs.Mapping.Building

/-!
# Which offence is reported

A mapping may offend in several ways at once, by itself or against the mappings before it.  Of
a list that makes no table, the first mapping that offends is reported, by the first of its
offences in a fixed order; what comes behind it makes no difference.
-/

namespace TelemetryRelay

namespace MappingError

/-- The mapping that an error is about. -/
def mapping? : MappingError → Option String
  | .empty => none
  | .duplicateName m | .missingTag m | .nonPositiveTag m _ | .tagOutOfRange m _
  | .missingClassName m | .unknownClass m _ | .notAMessage m _ | .abstractClass m _
  | .duplicateTag m _ _ | .duplicateClass m _ _ => some m

/-- The place of a check among the checks of a mapping. -/
def rank : MappingError → Nat
  | .empty => 0
  | .duplicateName _ => 1
  | .missingTag _ => 2
  | .nonPositiveTag _ _ => 3
  | .tagOutOfRange _ _ => 4
  | .missingClassName _ => 5
  | .unknownClass _ _ => 6
  | .notAMessage _ _ => 7
  | .abstractClass _ _ => 8
  | .duplicateTag _ _ _ => 9
  | .duplicateClass _ _ _ => 10

end MappingError

namespace MappingTable

section Offences

variable (registry : Registry) (earlier : List MappingConfig) (config : MappingConfig)

/-- A way in which a mapping that stands behind `earlier` offends.  It may offend in several. -/
inductive Offends : MappingError → Prop
  | duplicateName {j : Nat} {other : MappingConfig} (held : earlier[j]? = some other)
      (same : effectiveName j other = effectiveName earlier.length config) :
      Offends (.duplicateName (effectiveName earlier.length config))
  | missingTag (untagged : config.tag = none) :
      Offends (.missingTag (effectiveName earlier.length config))
  | nonPositiveTag {tag : Int} (tagged : config.tag = some tag) (small : tag ≤ 0) :
      Offends (.nonPositiveTag (effectiveName earlier.length config) tag)
  | tagOutOfRange {tag : Int} (tagged : config.tag = some tag) (large : 255 < tag) :
      Offends (.tagOutOfRange (effectiveName earlier.length config) tag)
  | missingClassName (blank : ∀ className, config.className = some className →
      ∀ c ∈ className.toList, Text.isBlank c = true) :
      Offends (.missingClassName (effectiveName earlier.length config))
  | unknownClass {className : String} (classed : config.className = some className)
      (unknown : registry.get? (Text.trimmed className) = none) :
      Offends (.unknownClass (effectiveName earlier.length config) (Text.trimmed className))
  | notAMessage {className : String} {type : Family} (classed : config.className = some className)
      (known : registry.get? (Text.trimmed className) = some type)
      (outside : type.isMessage = false) :
      Offends (.notAMessage (effectiveName earlier.length config) (Text.trimmed className))
  | abstractClass {className : String} {type : Family}
      (classed : config.className = some className)
      (known : registry.get? (Text.trimmed className) = some type)
      (family : type.isAbstract = true) :
      Offends (.abstractClass (effectiveName earlier.length config) (Text.trimmed className))
  | duplicateTag {tag : UInt8} {j : Nat} {other : MappingConfig}
      (tagged : config.tag = some (tag.toNat : Int)) (held : earlier[j]? = some other)
      (same : other.tag = config.tag)
      (only : ∀ k c, earlier[k]? = some c → c.tag = config.tag → k = j) :
      Offends (.duplicateTag (effectiveName earlier.length config) tag (effectiveName j other))
  | duplicateClass {name : String} {j : Nat} {other : MappingConfig}
      (typed : typeName? registry config = some name) (held : earlier[j]? = some other)
      (same : typeName? registry other = typeName? registry config)
      (only : ∀ k c, earlier[k]? = some c → typeName? registry c = typeName? registry config →
        k = j) :
      Offends (.duplicateClass (effectiveName earlier.length config) name (effectiveName j other))

/-- The mapping offends in this way, and each other way comes later in the order of the checks. -/
structure FirstOffence (e : MappingError) : Prop where
  offends : Offends registry earlier config e
  first : ∀ e', Offends registry earlier config e' → e' = e ∨ e.rank < e'.rank

end Offences

variable {registry : Registry} {t t' : MappingTable} {config other : MappingConfig}
  {configs earlier more : List MappingConfig} {entry : MappingEntry} {e e' : MappingError}
  {mapping : String} {tag : UInt8} {type : Family} {j : Nat}

/-! ## One check after the other -/

theorem Offends.mapping? (h : Offends registry earlier config e) :
    e.mapping? = some (effectiveName earlier.length config) := by
  cases h <;> rfl

theorem Offends.rank_pos (h : Offends registry earlier config e) : 1 ≤ e.rank := by
  cases h <;> simp [MappingError.rank]

/-- In each place of the order there is one offence at most. -/
theorem Offends.eq_of_rank (h : Offends registry earlier config e)
    (h' : Offends registry earlier config e') (hrank : e'.rank = e.rank) : e' = e := by
  cases h with
  | duplicateName => cases h' with
    | duplicateName => rfl
    | _ => cases hrank
  | missingTag => cases h' with
    | missingTag => rfl
    | _ => cases hrank
  | nonPositiveTag tagged => cases h' with
    | nonPositiveTag tagged' => rw [Option.some.inj (tagged'.symm.trans tagged)]
    | _ => cases hrank
  | tagOutOfRange tagged => cases h' with
    | tagOutOfRange tagged' => rw [Option.some.inj (tagged'.symm.trans tagged)]
    | _ => cases hrank
  | missingClassName => cases h' with
    | missingClassName => rfl
    | _ => cases hrank
  | unknownClass classed => cases h' with
    | unknownClass classed' => rw [Option.some.inj (classed'.symm.trans classed)]
    | _ => cases hrank
  | notAMessage classed => cases h' with
    | notAMessage classed' => rw [Option.some.inj (classed'.symm.trans classed)]
    | _ => cases hrank
  | abstractClass classed => cases h' with
    | abstractClass classed' => rw [Option.some.inj (classed'.symm.trans classed)]
    | _ => cases hrank
  | duplicateTag tagged held same only => cases h' with
    | duplicateTag tagged' held' same' =>
        obtain rfl := only _ _ held' same'
        obtain rfl := Option.some.inj (held'.symm.trans held)
        have htag := Int.ofNat.inj (Option.some.inj (tagged'.symm.trans tagged))
        rw [UInt8.toNat_inj.mp htag]
    | _ => cases hrank
  | duplicateClass typed held same only => cases h' with
    | duplicateClass typed' held' same' =>
        obtain rfl := only _ _ held' same'
        obtain rfl := Option.some.inj (held'.symm.trans held)
        rw [Option.some.inj (typed'.symm.trans typed)]
    | _ => cases hrank

/-- So the first offence is one that no other comes before. -/
theorem Offends.firstOffence (h : Offends registry earlier config e)
    (hleast : ∀ e', Offends registry earlier config e' → e.rank ≤ e'.rank) :
    FirstOffence registry earlier config e := by
  refine ⟨h, fun e' h' => ?_⟩
  rcases Nat.eq_or_lt_of_le (hleast e' h') with heq | hlt
  · exact .inl (h.eq_of_rank h' heq.symm)
  · exact .inr hlt

/-! ### Checks that are passed -/

/-- With a name of its own. -/
theorem Offends.rank_of_name (h : Offends registry earlier config e)
    (hname : ∀ (j : Nat) (other : MappingConfig), earlier[j]? = some other →
      effectiveName j other ≠ effectiveName earlier.length config) : 2 ≤ e.rank := by
  cases h with
  | duplicateName held same => exact absurd same (hname _ _ held)
  | _ => simp [MappingError.rank]

/-- With a tag that is right in itself. -/
theorem Offends.rank_of_tag (h : Offends registry earlier config e) (hrank : 2 ≤ e.rank)
    (htag : config.tag = some (tag.toNat : Int)) (hpositive : 1 ≤ tag.toNat) : 5 ≤ e.rank := by
  have hsize := tag.toNat_lt
  cases h with
  | duplicateName => cases hrank with | step h => cases h
  | missingTag untagged => cases untagged.symm.trans htag
  | nonPositiveTag tagged small =>
      cases tagged.symm.trans htag
      omega
  | tagOutOfRange tagged large =>
      cases tagged.symm.trans htag
      omega
  | _ => simp [MappingError.rank]

/-- With a class that is right in itself. -/
theorem Offends.rank_of_class (h : Offends registry earlier config e) (hrank : 5 ≤ e.rank)
    {className : String} (hclass : config.className = some className)
    (hnonblank : ∃ c ∈ className.toList, Text.isBlank c = false)
    (hknown : registry.get? (Text.trimmed className) = some type)
    (hmessage : type.isMessage = true) (hdecodes : type.isAbstract = false) : 9 ≤ e.rank := by
  cases h with
  | missingClassName blank =>
      obtain ⟨c, hc, hvisible⟩ := hnonblank
      cases (blank _ hclass c hc).symm.trans hvisible
  | unknownClass classed unknown =>
      cases classed.symm.trans hclass
      cases unknown.symm.trans hknown
  | notAMessage classed known outside =>
      cases classed.symm.trans hclass
      cases known.symm.trans hknown
      cases outside.symm.trans hmessage
  | abstractClass classed known family =>
      cases classed.symm.trans hclass
      cases known.symm.trans hknown
      cases family.symm.trans hdecodes
  | duplicateTag | duplicateClass => simp [MappingError.rank]
  | _ =>
      simp only [MappingError.rank] at hrank
      omega

/-! ### Checks that fail -/

theorem checkClass_of_blank {className? : Option String} (hblank : ∀ className,
    className? = some className → ∀ c ∈ className.toList, Text.isBlank c = true) :
    checkClass registry mapping className? = .error (.missingClassName mapping) := by
  have htrimmed : Text.trimmed (className?.getD "") = "" := by
    by_contra hne
    obtain ⟨c, hc, hvisible⟩ := Text.trimmed_ne_empty.mp hne
    cases className? with
    | none => simp at hc
    | some className => cases (hblank className rfl c hc).symm.trans hvisible
  simp [checkClass, htrimmed]

/-- With a class name that is not blank the rest depends on what the registry knows by it. -/
theorem checkClass_of_visible {className : String}
    (hvisible : ∃ c ∈ className.toList, Text.isBlank c = false) :
    checkClass registry mapping (some className) =
      match registry.get? (Text.trimmed className) with
      | none => .error (.unknownClass mapping (Text.trimmed className))
      | some type =>
        if type.isMessage = false then .error (.notAMessage mapping (Text.trimmed className))
        else if type.isAbstract = true then .error (.abstractClass mapping (Text.trimmed className))
        else .ok type := by
  have hnonempty : (Text.trimmed className).isEmpty = false := by
    simpa using Text.trimmed_ne_empty.mpr hvisible
  cases hknown : registry.get? (Text.trimmed className) with
  | none => simp [checkClass, hnonempty, hknown]
  | some type => simp [checkClass, hnonempty, hknown]

theorem firstOffence_of_checkTag
    (hpassed : ∀ e', Offends registry earlier config e' → 2 ≤ e'.rank)
    (h : checkTag (effectiveName earlier.length config) config.tag = .error e) :
    FirstOffence registry earlier config e := by
  unfold checkTag at h
  split at h
  · rename_i untagged
    cases h
    exact (Offends.missingTag untagged).firstOffence hpassed
  rename_i tag tagged
  split at h
  · rename_i small
    cases h
    refine (Offends.nonPositiveTag tagged small).firstOffence fun e' h' => ?_
    have hrank := hpassed e' h'
    cases h' with
    | missingTag untagged => cases untagged.symm.trans tagged
    | _ =>
        simp only [MappingError.rank] at hrank ⊢
        omega
  split at h
  · rename_i hpositive large
    cases h
    refine (Offends.tagOutOfRange tagged large).firstOffence fun e' h' => ?_
    have hrank := hpassed e' h'
    cases h' with
    | missingTag untagged => cases untagged.symm.trans tagged
    | nonPositiveTag tagged' small =>
        cases tagged'.symm.trans tagged
        exact absurd small hpositive
    | _ =>
        simp only [MappingError.rank] at hrank ⊢
        omega
  · cases h

theorem firstOffence_of_checkClass
    (hpassed : ∀ e', Offends registry earlier config e' → 5 ≤ e'.rank)
    (h : checkClass registry (effectiveName earlier.length config) config.className = .error e) :
    FirstOffence registry earlier config e := by
  by_cases hblank : ∀ className, config.className = some className →
      ∀ c ∈ className.toList, Text.isBlank c = true
  · rw [checkClass_of_blank hblank] at h
    cases h
    exact (Offends.missingClassName hblank).firstOffence hpassed
  push Not at hblank
  obtain ⟨className, classed, hvisible⟩ := hblank
  have hvisible : ∃ c ∈ className.toList, Text.isBlank c = false := by simpa using hvisible
  have hpassed : ∀ e', Offends registry earlier config e' → 6 ≤ e'.rank := by
    intro e' h'
    have hrank := hpassed e' h'
    cases h' with
    | missingClassName blank =>
        obtain ⟨c, hc, hvisible⟩ := hvisible
        cases (blank _ classed c hc).symm.trans hvisible
    | _ =>
        simp only [MappingError.rank] at hrank ⊢
        omega
  rw [classed, checkClass_of_visible hvisible] at h
  split at h
  · rename_i unknown
    cases h
    exact (Offends.unknownClass classed unknown).firstOffence hpassed
  rename_i type known
  split at h
  · rename_i outside
    cases h
    refine (Offends.notAMessage classed known outside).firstOffence fun e' h' => ?_
    have hrank := hpassed e' h'
    cases h' with
    | unknownClass classed' unknown =>
        cases classed'.symm.trans classed
        cases unknown.symm.trans known
    | _ =>
        simp only [MappingError.rank] at hrank ⊢
        omega
  split at h
  · rename_i hmessage family
    cases h
    refine (Offends.abstractClass classed known family).firstOffence fun e' h' => ?_
    have hrank := hpassed e' h'
    cases h' with
    | unknownClass classed' unknown =>
        cases classed'.symm.trans classed
        cases unknown.symm.trans known
    | notAMessage classed' known' outside =>
        cases classed'.symm.trans classed
        cases known'.symm.trans known
        exact absurd outside hmessage
    | _ =>
        simp only [MappingError.rank] at hrank ⊢
        omega
  · cases h

/-! ## Against the mappings before -/

/-- A key that stands once stands at one position. -/
theorem position_unique {α β : Type} {key : α → β} {l : List α} (hkeys : (l.map key).Nodup)
    {j k : Nat} {a a' : α} (ha : l[j]? = some a) (ha' : l[k]? = some a') (hsame : key a = key a') :
    j = k := by
  obtain ⟨hj, -⟩ := List.getElem?_eq_some_iff.mp ha
  refine (List.getElem?_inj (by simpa using hj) hkeys).mp ?_
  rw [List.getElem?_map, List.getElem?_map, ha, ha', Option.map_some, Option.map_some, hsame]

theorem Resolves.typeName? {position : Nat} (h : Resolves registry position config entry) :
    typeName? registry config = some entry.type.name := by
  obtain ⟨className, hclass, -, hknown⟩ := h.type
  simp [MappingTable.typeName?, hclass, hknown]

section Earlier

variable (hreads : Reads registry 0 earlier t.entries)

include hreads

/-- Each entry is that of an earlier mapping. -/
theorem Reads.mapping_of_mem (hentry : entry ∈ t.entries) :
    ∃ (j : Nat) (other : MappingConfig), earlier[j]? = some other ∧
      Resolves registry j other entry := by
  obtain ⟨j, hj⟩ := List.mem_iff_getElem?.mp hentry
  obtain ⟨hlt, -⟩ := List.getElem?_eq_some_iff.mp hj
  rw [hreads.length_eq] at hlt
  have hother := List.getElem?_eq_getElem hlt
  obtain ⟨entry', hentry', hresolves⟩ := hreads.resolves hother
  cases hentry'.symm.trans hj
  exact ⟨j, _, hother, by simpa using hresolves⟩

/-- A name that is taken is that of an earlier mapping. -/
theorem Reads.duplicateName
    (hname : t.entries.any (·.name == effectiveName earlier.length config) = true) :
    Offends registry earlier config (.duplicateName (effectiveName earlier.length config)) := by
  obtain ⟨entry, hentry, hsame⟩ := List.any_eq_true.mp hname
  obtain ⟨j, other, held, hresolves⟩ := hreads.mapping_of_mem hentry
  refine .duplicateName held ?_
  rw [← hresolves.name]
  simpa using hsame

theorem Reads.name_new
    (hname : t.entries.any (·.name == effectiveName earlier.length config) = false)
    (j : Nat) (other : MappingConfig) (held : earlier[j]? = some other) :
    effectiveName j other ≠ effectiveName earlier.length config := by
  obtain ⟨entry, hentry, hresolves⟩ := hreads.resolves held
  have hne := List.any_eq_false.mp hname entry (List.mem_of_getElem? hentry)
  rw [hresolves.name] at hne
  simpa using hne

theorem Reads.tag_new (htag : config.tag = some (tag.toNat : Int)) (hnone : t.byTag? tag = none)
    (j : Nat) (other : MappingConfig) (held : earlier[j]? = some other) :
    other.tag ≠ config.tag := by
  obtain ⟨entry, hentry, hresolves⟩ := hreads.resolves held
  intro hsame
  have htag : entry.tag = tag := by
    rw [hresolves.tag, htag] at hsame
    exact UInt8.toNat_inj.mp (Int.ofNat.inj (Option.some.inj hsame))
  exact find?_beq_eq_none.mp hnone entry (List.mem_of_getElem? hentry) htag

/-- The mapping whose tag is found is the only one that has it. -/
theorem Reads.duplicateTag (hapart : t.entries.Pairwise Apart)
    (htag : config.tag = some (tag.toNat : Int)) (hfound : t.byTag? tag = some entry) :
    Offends registry earlier config
      (.duplicateTag (effectiveName earlier.length config) tag entry.name) := by
  obtain ⟨-, htags, -⟩ := hreads.apart_iff.mp hapart
  have hsame : entry.tag = tag := by simpa using List.find?_some hfound
  obtain ⟨j, other, held, hresolves⟩ :=
    hreads.mapping_of_mem (List.mem_of_find?_eq_some hfound)
  have hother : other.tag = config.tag := by rw [hresolves.tag, hsame, htag]
  rw [hresolves.name]
  exact .duplicateTag htag held hother fun k c hk hck =>
    position_unique htags hk held (hck.trans hother.symm)

/-- The mapping whose type is found is the only one that has it. -/
theorem Reads.duplicateClass (hapart : t.entries.Pairwise Apart)
    (htype : typeName? registry config = some type.name) (hfound : t.byType? type = some entry) :
    Offends registry earlier config
      (.duplicateClass (effectiveName earlier.length config) type.name entry.name) := by
  obtain ⟨-, -, htypes⟩ := hreads.apart_iff.mp hapart
  have hsame : entry.type.name = type.name := by simpa [Family.same] using List.find?_some hfound
  obtain ⟨j, other, held, hresolves⟩ :=
    hreads.mapping_of_mem (List.mem_of_find?_eq_some hfound)
  have hother : typeName? registry other = typeName? registry config := by
    rw [hresolves.typeName?, hsame, htype]
  rw [hresolves.name]
  exact .duplicateClass htype held hother fun k c hk hck =>
    position_unique htypes hk held (hck.trans hother.symm)

/-- **A mapping that is not accepted behind `earlier` has the error of its first offence.** -/
theorem Reads.firstOffence_of_accept (hapart : t.entries.Pairwise Apart)
    (h : accept registry t config = .error e) : FirstOffence registry earlier config e := by
  unfold accept at h
  rw [hreads.length_eq] at h
  dsimp only at h
  split at h
  · rename_i hname
    cases h
    exact (hreads.duplicateName hname).firstOffence fun e' h' => h'.rank_pos
  rename_i hname
  -- From here on each check that is passed leaves the offences of the later ones only.
  have hnamed : ∀ e', Offends registry earlier config e' → 2 ≤ e'.rank := fun e' h' =>
    h'.rank_of_name (hreads.name_new (by simpa using hname))
  rcases htag : checkTag (effectiveName earlier.length config) config.tag with e₁ | tag
  · simp only [htag, bind, Except.bind] at h
    cases h
    exact firstOffence_of_checkTag hnamed htag
  obtain ⟨htagged, hpositive⟩ := checkTag_eq_ok.mp htag
  have hfitting : ∀ e', Offends registry earlier config e' → 5 ≤ e'.rank := fun e' h' =>
    h'.rank_of_tag (hnamed e' h') htagged hpositive
  rcases htype : checkClass registry (effectiveName earlier.length config) config.className
    with e₁ | type
  · simp only [htag, htype, bind, Except.bind] at h
    cases h
    exact firstOffence_of_checkClass hfitting htype
  obtain ⟨⟨className, hclass, hvisible, hknown⟩, hmessage, hdecodes⟩ :=
    checkClass_eq_ok.mp htype
  have hclassed : ∀ e', Offends registry earlier config e' → 9 ≤ e'.rank := fun e' h' =>
    h'.rank_of_class (hfitting e' h') hclass hvisible hknown hmessage hdecodes
  simp only [htag, htype, bind, Except.bind] at h
  split at h
  · rename_i existing _ hexisting
    cases h
    exact (hreads.duplicateTag hapart htagged hexisting).firstOffence hclassed
  · rename_i existing hnoTag hexisting
    cases h
    have htyped : typeName? registry config = some type.name := by simp [typeName?, hclass, hknown]
    refine (hreads.duplicateClass hapart htyped hexisting).firstOffence fun e' h' => ?_
    have hrank := hclassed e' h'
    cases h' with
    | duplicateTag _ held same => exact absurd same (hreads.tag_new htagged hnoTag _ _ held)
    | duplicateClass => exact Nat.le_refl _
    | _ =>
        simp only [MappingError.rank] at hrank ⊢
        omega
  · cases h

end Earlier

/-! ## The list as a whole -/

/-- Where the mappings are not all accepted there is a first one that is not. -/
theorem exists_rejected (h : configs.foldlM (accept registry) t = .error e) :
    ∃ i config t', configs[i]? = some config ∧
      (configs.take i).foldlM (accept registry) t = .ok t' ∧
      accept registry t' config = .error e := by
  induction configs generalizing t with
  | nil => cases h
  | cons config configs ih =>
      rw [List.foldlM_cons] at h
      rcases haccept : accept registry t config with e₁ | t₁
      · rw [haccept] at h
        cases h
        exact ⟨0, config, t, rfl, rfl, haccept⟩
      · rw [haccept] at h
        obtain ⟨i, rejected, t', hi, hbefore, hrejected⟩ := ih h
        refine ⟨i + 1, rejected, t', by simpa using hi, ?_, hrejected⟩
        rw [List.take_succ_cons]
        exact foldlM_accept_cons.mpr ⟨t₁, haccept, hbefore⟩

theorem foldlM_accept_take (h : configs.foldlM (accept registry) t = .ok t') (k : Nat) :
    ∃ t₁, (configs.take k).foldlM (accept registry) t = .ok t₁ := by
  rw [← List.take_append_drop k configs, List.foldlM_append] at h
  rcases htaken : (configs.take k).foldlM (accept registry) t with e | t₁
  · rw [htaken] at h
    cases h
  · exact ⟨t₁, rfl⟩

/-- `e` is what a list of mappings fails with when the one at `i` is the first that offends:
those before it make tables, the error names it and is its first offence, and what stands behind
it has no say. -/
structure ReportsAt (registry : Registry) (configs : List MappingConfig) (i : Nat)
    (e : MappingError) : Prop where
  accepted : ∀ j < i, ∃ t, build registry (configs.take (j + 1)) = .ok t
  rejected : build registry (configs.take (i + 1)) = .error e
  offence : ∃ config, configs[i]? = some config ∧ e.mapping? = some (effectiveName i config) ∧
    FirstOffence registry (configs.take i) config e
  heedless : ∀ more, build registry (configs.take (i + 1) ++ more) = .error e

/-- **A list of mappings that makes no table is reported by the first offence of its first
offender.** -/
theorem build_first_offence (registry : Registry) (configs : List MappingConfig) (e : MappingError)
    (hnonempty : configs ≠ []) (hfails : build registry configs = .error e) :
    ∃ i, ReportsAt registry configs i e := by
  have hfold : configs.foldlM (accept registry) ⟨[]⟩ = .error e := by
    rwa [build, if_neg (by simpa using hnonempty)] at hfails
  obtain ⟨i, config, t, hi, hbefore, hrejected⟩ := exists_rejected hfold
  -- What was accepted so far is the table of the mappings before, entry by entry.
  obtain ⟨entries, rfl, hreads, hapart⟩ := (foldlM_accept_eq_ok List.Pairwise.nil).mp hbefore
  have hfirst : FirstOffence registry (configs.take i) config e :=
    Reads.firstOffence_of_accept hreads hapart hrejected
  obtain ⟨hlength, -⟩ := List.getElem?_eq_some_iff.mp hi
  have htake : configs.take (i + 1) = configs.take i ++ [config] := by
    rw [List.take_add_one, hi, Option.toList_some]
  have hmore (more : List MappingConfig) :
      build registry (configs.take (i + 1) ++ more) = .error e := by
    rw [htake, build, if_neg (by simp), List.append_assoc, List.foldlM_append, hbefore]
    show List.foldlM (accept registry) _ (config :: more) = _
    rw [List.foldlM_cons, hrejected]
    rfl
  refine ⟨i, fun j hj => ?_, by simpa using hmore [], ⟨config, hi, ?_, hfirst⟩, hmore⟩
  · obtain ⟨t', ht'⟩ := foldlM_accept_take hbefore (j + 1)
    rw [List.take_take, Nat.min_eq_left hj] at ht'
    refine ⟨t', ?_⟩
    rwa [build, if_neg (by simpa using hnonempty)]
  · have hposition : (configs.take i).length = i := List.length_take_of_le (Nat.le_of_lt hlength)
    rw [hfirst.offends.mapping?, hposition]

/-- The second of three mappings has a name of its own but no tag, and no class that is known; the
third one repeats the name of the first. -/
def untagged : List MappingConfig :=
  [{ name := "pilot", tag := some 7, className := some "PilotData" },
    { className := some "Nonesuch" },
    { name := "pilot", tag := some 0 }]

theorem build_first_offence_untagged :
    build .standard untagged = .error (.missingTag "#2") ∧
      ∃ i, ReportsAt .standard untagged i (.missingTag "#2") := by
  have hfails : build .standard untagged = .error (.missingTag "#2") := by rfl
  exact ⟨hfails, build_first_offence .standard untagged _ (by decide) hfails⟩

end MappingTable

end TelemetryRelay
