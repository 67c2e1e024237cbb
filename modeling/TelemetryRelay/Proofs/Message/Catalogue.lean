import Mathlib.Tactic.IntervalCases
import TelemetryRelay.Message.Family
import TelemetryRelay.Proofs.Message.Layout

/-!
# The catalogue as a codec

Each kind of payload is read as what was written, and each payload of the length of its kind
is read.  What has been read is written again as the same payload, but for the flag of
`EnableSensors`, which becomes 0 or 1, and the reserved word of `RevvingParameters`, which
becomes 0.  A payload of another length is refused under the name of its kind; the parts of
a report are never refused.
-/

namespace TelemetryRelay

open Message

/-- The payload that is written for what a payload was read as. -/
def Kind.canonical : Kind → Bytes → Bytes
  | .enableSensors, payload => payload.map fun b => if b = 0 then 0 else 1
  | .revvingParameters, payload => payload.take 8 ++ [0, 0]
  | _, payload => payload

/-! ## Rows -/

namespace Message.Layout

variable {α φ : Type} {l : Layout α φ} {k : Kind} {length : Nat}

/-- A record that keeps its whole row is written again as the same payload. -/
theorem codec_of_row (h : l.field.Exact) (hlength : length = l.count * l.field.width)
    (hrow : ∀ row, l.row (l.ofRow row) = row) : Codec k length l.encode (l.decode k) id :=
  l.codec k h hlength fun row => congrArg l.field.encodeRow (hrow row)

end Message.Layout

namespace Message

theorem codec_commandData :
    Codec .commandData 8 CommandData.layout.encode (CommandData.layout.decode .commandData) id :=
  Layout.codec_of_row Field.exact_word rfl fun row => by
    ext i (hi : i < 4)
    interval_cases i <;> rfl

theorem codec_motorSignals :
    Codec .motorSignals 10 MotorSignals.layout.encode (MotorSignals.layout.decode .motorSignals) id :=
  Layout.codec_of_row Field.exact_word rfl fun row => by
    ext i (hi : i < 5)
    interval_cases i <;> rfl

theorem codec_idleLimit :
    Codec .idleLimit 2 IdleLimit.layout.encode (IdleLimit.layout.decode .idleLimit) id :=
  Layout.codec_of_row Field.exact_word rfl fun row => by
    ext i (hi : i < 1)
    interval_cases i
    rfl

theorem codec_trimValues :
    Codec .trimValues 6 TrimValues.layout.encode (TrimValues.layout.decode .trimValues) id :=
  Layout.codec_of_row Field.exact_word rfl fun row => by
    ext i (hi : i < 3)
    interval_cases i <;> rfl

theorem codec_gains (k : Kind) : Codec k 8 Gains.layout.encode (Gains.layout.decode k) id :=
  Layout.codec_of_row Field.exact_word rfl fun row => by
    ext i (hi : i < 4)
    interval_cases i <;> rfl

theorem codec_sensorData :
    Codec .sensorData 38 SensorData.layout.encode (SensorData.layout.decode .sensorData) id :=
  Layout.codec_of_row Field.exact_word rfl fun row => by
    ext i (hi : i < 19)
    interval_cases i <;> rfl

theorem codec_motorOffsets :
    Codec .motorOffsets 8 MotorOffsets.layout.encode (MotorOffsets.layout.decode .motorOffsets) id :=
  Layout.codec_of_row Field.exact_word rfl fun row => by
    ext i (hi : i < 4)
    interval_cases i <;> rfl

theorem codec_simulationData :
    Codec .simulationData 144 SimulationData.layout.encode (SimulationData.layout.decode .simulationData) id :=
  Layout.codec_of_row Field.exact_double rfl fun row => by
    ext i (hi : i < 18)
    interval_cases i <;> rfl

theorem row_five {φ : Type} (w : Vector φ 5) : ∃ a b c d e, w = #v[a, b, c, d, e] := by
  refine ⟨w[0], w[1], w[2], w[3], w[4], ?_⟩
  ext i hi
  interval_cases i <;> rfl

/-- The reserved word is written as zero. -/
theorem codec_revvingParameters :
    Codec .revvingParameters 10 RevvingParameters.layout.encode
      (RevvingParameters.layout.decode .revvingParameters) Kind.revvingParameters.canonical := by
  refine RevvingParameters.layout.codec _ Field.exact_word rfl fun (w : Vector Int16 5) => ?_
  obtain ⟨a, b, c, d, reserved, rfl⟩ := row_five w
  have hspelled (x : Int16) : (Field.word.encode x).length = 2 := Field.exact_word.length_encode x
  have hrow (e : Int16) : Field.word.encodeRow #v[a, b, c, d, e] =
      (Field.word.encode a ++ Field.word.encode b ++ Field.word.encode c ++
        Field.word.encode d) ++ Field.word.encode e := by
    simp [Field.encodeRow]
  show Field.word.encodeRow #v[a, b, c, d, 0] =
    (Field.word.encodeRow #v[a, b, c, d, reserved]).take 8 ++ [0, 0]
  rw [hrow, hrow, List.take_left' (by simp [hspelled])]
  rfl

/-- The flag is written as 0 or 1. -/
theorem codec_enableSensors :
    Codec .enableSensors 1 EnableSensors.encode EnableSensors.decode
      Kind.enableSensors.canonical where
  length_encode _ := rfl
  decode_encode e := by cases e with | mk enabled => cases enabled <;> rfl
  refuses payload hne := by
    match payload with
    | [] => rfl
    | [_] => exact absurd rfl hne
    | _ :: _ :: _ => rfl
  accepts payload hlength := by
    obtain ⟨b, rfl⟩ := List.length_eq_one_iff.mp hlength
    refine ⟨⟨b != 0⟩, rfl, ?_⟩
    by_cases hb : b = 0 <;> simp [EnableSensors.encode, Kind.canonical, hb]

/-! ## Reports with parts -/

variable {before part after payload : Bytes} {start width : Nat}

theorem slice_of_append (hbefore : before.length = start) (hpart : part.length = width) :
    ((before ++ (part ++ after)).drop start).take width = part := by
  rw [List.drop_left' hbefore, List.take_left' hpart]

theorem slice_append_drop (payload : Bytes) (start width : Nat) :
    (payload.drop start).take width ++ payload.drop (start + width) = payload.drop start := by
  rw [← List.drop_drop, List.take_append_drop]

theorem drop_last_two {n : Nat} (h : payload.length = n + 2) :
    payload.drop n = [payload[n], payload[n + 1]] := by
  rw [List.drop_eq_getElem_cons (by omega), List.drop_eq_getElem_cons (by omega),
    List.drop_eq_nil_of_le (by omega)]

theorem codec_groundReport :
    Codec .groundReport 58 GroundReport.encode GroundReport.decode id where
  length_encode g := by
    simp [GroundReport.encode, codec_sensorData.length_encode, codec_motorSignals.length_encode,
      codec_motorOffsets.length_encode]
  decode_encode g := by
    have hsensors := codec_sensorData.length_encode g.sensors
    have hsignals := codec_motorSignals.length_encode g.signals
    have hoffsets := codec_motorOffsets.length_encode g.offsets
    have hencode : g.encode = SensorData.layout.encode g.sensors ++
        (MotorSignals.layout.encode g.signals ++ (MotorOffsets.layout.encode g.offsets ++
          [g.state, g.mode])) := by
      simp [GroundReport.encode]
    have hlength : g.encode.length = 58 := by
      simp [GroundReport.encode, hsensors, hsignals, hoffsets]
    have hfirst : g.encode.take 38 = SensorData.layout.encode g.sensors := by
      rw [hencode, List.take_left' hsensors]
    have hsecond : (g.encode.drop 38).take 10 = MotorSignals.layout.encode g.signals := by
      rw [hencode, slice_of_append hsensors hsignals]
    have hthird : (g.encode.drop 48).take 8 = MotorOffsets.layout.encode g.offsets := by
      rw [hencode, ← List.append_assoc]
      exact slice_of_append (by simp [hsensors, hsignals]) hoffsets
    have hflags : [g.encode[56], g.encode[57]] = [g.state, g.mode] := by
      rw [← drop_last_two hlength, hencode, ← List.append_assoc, ← List.append_assoc]
      exact List.drop_left' (by simp [hsensors, hsignals, hoffsets])
    rw [GroundReport.decode, dif_pos hlength, hfirst, hsecond, hthird,
      codec_sensorData.decode_encode, codec_motorSignals.decode_encode,
      codec_motorOffsets.decode_encode]
    simp only [List.cons.injEq, and_true] at hflags
    simp only [hflags.1, hflags.2, bind, Except.bind, pure, Except.pure]
  refuses payload hne := by
    rw [GroundReport.decode, dif_neg hne]
    rfl
  accepts payload hlength := by
    obtain ⟨sensors, hsensors, hsensorsBack⟩ :=
      codec_sensorData.accepts (payload.take 38) (by simp [hlength])
    obtain ⟨signals, hsignals, hsignalsBack⟩ :=
      codec_motorSignals.accepts ((payload.drop 38).take 10) (by simp [hlength])
    obtain ⟨offsets, hoffsets, hoffsetsBack⟩ :=
      codec_motorOffsets.accepts ((payload.drop 48).take 8) (by simp [hlength])
    refine ⟨⟨sensors, signals, offsets, payload[56], payload[57]⟩, ?_, ?_⟩
    · rw [GroundReport.decode, dif_pos hlength, hsensors, hsignals, hoffsets]
      rfl
    · simp only [GroundReport.encode, hsensorsBack, hsignalsBack, hoffsetsBack, id]
      rw [← drop_last_two hlength, List.append_assoc, List.append_assoc,
        slice_append_drop payload 48 8, slice_append_drop payload 38 10, List.take_append_drop]

theorem LaserPosition.slice_eq {p : LaserPosition} (h : start + 8 ≤ payload.length)
    (hdigits : (payload.drop start).take 8 = p.digits) : slice payload start h = p := by
  cases p
  simp only [slice, hdigits]

theorem row_nine {φ : Type} (w : Vector φ 9) :
    #v[w[0], w[1], w[2], w[3], w[4], w[5], w[6], w[7], w[8]] = w := by
  ext i hi
  interval_cases i <;> rfl

theorem codec_javiatorData :
    Codec .javiatorData 48 JaviatorData.encode JaviatorData.decode id where
  length_encode j := by
    have hreadings := Field.length_encodeRow Field.exact_word
      #v[j.temperature, j.battery, j.sonar, j.state, j.id]
    have hmotion := Field.length_encodeRow Field.exact_word
      #v[j.roll, j.pitch, j.yaw, j.dRoll, j.dPitch, j.dYaw, j.ddx, j.ddy, j.ddz]
    simp only [JaviatorData.encode, LaserPosition.encode, List.length_append, Bytes.length_ofNat,
      hreadings, hmotion, j.xPosition.width, j.yPosition.width]
    rfl
  decode_encode j := by
    have hx := j.xPosition.width
    have hy := j.yPosition.width
    have hmaps := Bytes.length_ofNat 4 j.maps.toNat
    have hreadings : (Field.word.encodeRow
        #v[j.temperature, j.battery, j.sonar, j.state, j.id]).length = 10 :=
      Field.length_encodeRow Field.exact_word _
    have hmotion : (Field.word.encodeRow
        #v[j.roll, j.pitch, j.yaw, j.dRoll, j.dPitch, j.dYaw, j.ddx, j.ddy, j.ddz]).length = 18 :=
      Field.length_encodeRow Field.exact_word _
    have hlength : j.encode.length = 48 := by
      simp [JaviatorData.encode, LaserPosition.encode, hreadings, hmotion, hx, hy]
    have hmapsBack : UInt32.ofNat (Bytes.toNat (j.encode.take 4)) = j.maps := by
      rw [JaviatorData.encode, List.append_assoc, List.append_assoc, List.append_assoc,
        List.take_left' hmaps, Bytes.toNat_ofNat, Nat.mod_eq_of_lt j.maps.toNat_lt,
        UInt32.ofNat_toNat]
    have hreadingsBack : (j.encode.drop 4).take 10 =
        Field.word.encodeRow #v[j.temperature, j.battery, j.sonar, j.state, j.id] := by
      rw [JaviatorData.encode, List.append_assoc, List.append_assoc, List.append_assoc,
        slice_of_append hmaps hreadings]
    have hmotionBack : j.encode.drop 30 = Field.word.encodeRow
        #v[j.roll, j.pitch, j.yaw, j.dRoll, j.dPitch, j.dYaw, j.ddx, j.ddy, j.ddz] :=
      List.drop_left' (by simp [LaserPosition.encode, hreadings, hx, hy])
    have hxBack : LaserPosition.slice j.encode 14 (by omega) = j.xPosition := by
      apply LaserPosition.slice_eq
      rw [JaviatorData.encode, List.append_assoc, List.append_assoc]
      exact slice_of_append (by simp [hreadings]) hx
    have hyBack : LaserPosition.slice j.encode 22 (by omega) = j.yPosition := by
      apply LaserPosition.slice_eq
      rw [JaviatorData.encode, List.append_assoc]
      exact slice_of_append (by simp [LaserPosition.encode, hreadings, hx]) hy
    rw [JaviatorData.decode, dif_pos hlength, hreadingsBack, hmotionBack,
      Kind.readRow_encodeRow _ Field.exact_word, Kind.readRow_encodeRow _ Field.exact_word]
    simp only [hmapsBack, hxBack, hyBack, bind, Except.bind, pure, Except.pure]
    rfl
  refuses payload hne := by
    rw [JaviatorData.decode, dif_neg hne]
    rfl
  accepts payload hlength := by
    have hreadings : ((payload.drop 4).take 10).length = 5 * Field.word.width := by
      simp [hlength, Field.word]
    have hmotion : (payload.drop 30).length = 9 * Field.word.width := by
      simp [hlength, Field.word]
    have hrow (w : Vector Int16 5) : #v[w[0], w[1], w[2], w[3], w[4]] = w := by
      obtain ⟨a, b, c, d, e, rfl⟩ := row_five w
      rfl
    have hmaps : Bytes.ofNat 4 (UInt32.ofNat (Bytes.toNat (payload.take 4))).toNat =
        payload.take 4 := by
      have hfour : (payload.take 4).length = 4 := by simp [hlength]
      have hbound : Bytes.toNat (payload.take 4) < 4294967296 := by
        have hlt := Bytes.toNat_lt (payload.take 4)
        rwa [hfour] at hlt
      rw [UInt32.toNat_ofNat_of_lt' hbound]
      exact (congrArg (Bytes.ofNat · _) hfour.symm).trans (Bytes.ofNat_toNat _)
    have hdecode := JaviatorData.decode.eq_def payload
    rw [dif_pos hlength, Kind.readRow_of_length _ hreadings,
      Kind.readRow_of_length _ hmotion] at hdecode
    refine ⟨_, hdecode, ?_⟩
    simp only [JaviatorData.encode, LaserPosition.encode, LaserPosition.slice, hmaps, hrow,
      row_nine, Field.encodeRow_decodeRow Field.exact_word hreadings,
      Field.encodeRow_decodeRow Field.exact_word hmotion, id]
    rw [List.append_assoc, List.append_assoc, List.append_assoc,
      slice_append_drop payload 22 8, slice_append_drop payload 14 8,
      slice_append_drop payload 4 10, List.take_append_drop]

end Message

/-! ## The whole catalogue -/

/-- Reading and writing the payloads of a kind: what is written has the length of the kind and is
read back, and a payload is read if and only if it has that length. -/
structure Kind.Faithful (k : Kind) : Prop where
  length_encode : ∀ body : Body, body.kind = k → ∀ n ∈ k.payloadLength?, body.encode.length = n
  decode_encode : ∀ body : Body, body.kind = k → k.decode body.encode = .ok body
  refuses : ∀ n ∈ k.payloadLength?, ∀ payload : Bytes, payload.length ≠ n →
    k.decode payload = .error (.payloadLength k.name n payload.length)
  accepts : ∀ payload : Bytes, (∀ n ∈ k.payloadLength?, payload.length = n) →
    ∃ body : Body, body.kind = k ∧ k.decode payload = .ok body ∧
      body.encode = k.canonical payload

/-- A kind is as faithful as the reading of its records. -/
theorem Codec.faithful {α : Type} {k : Kind} {length : Nat} {encode : α → Bytes}
    {decode : Bytes → Except MessageError α} {canonical : Bytes → Bytes} {ofRecord : α → Body}
    (h : Codec k length encode decode canonical) (hlength : k.payloadLength? = some length)
    (hcanonical : k.canonical = canonical) (hencode : ∀ a, (ofRecord a).encode = encode a)
    (hdecode : ∀ payload, k.decode payload = (decode payload).map ofRecord)
    (hkind : ∀ a, (ofRecord a).kind = k)
    (hbody : ∀ body : Body, body.kind = k → ∃ a, body = ofRecord a) : k.Faithful where
  length_encode body hk n hn := by
    obtain ⟨a, rfl⟩ := hbody body hk
    cases hlength.symm.trans hn
    rw [hencode, h.length_encode]
  decode_encode body hk := by
    obtain ⟨a, rfl⟩ := hbody body hk
    rw [hencode, hdecode, h.decode_encode]
    rfl
  refuses n hn payload hne := by
    cases hlength.symm.trans hn
    rw [hdecode, h.refuses payload hne]
    rfl
  accepts payload hpayload := by
    obtain ⟨a, hread, hwritten⟩ := h.accepts payload (hpayload length hlength)
    refine ⟨ofRecord a, hkind a, ?_, ?_⟩
    · rw [hdecode, hread]
      rfl
    · rw [hencode, hwritten, hcanonical]

namespace Kind

theorem faithful (k : Kind) : k.Faithful := by
  cases k with
  | commandData =>
      exact codec_commandData.faithful rfl rfl (fun _ => rfl) (fun _ => rfl) (fun _ => rfl)
        fun | .commandData c, _ => ⟨c, rfl⟩
  | motorSignals =>
      exact codec_motorSignals.faithful rfl rfl (fun _ => rfl) (fun _ => rfl) (fun _ => rfl)
        fun | .motorSignals m, _ => ⟨m, rfl⟩
  | idleLimit =>
      exact codec_idleLimit.faithful rfl rfl (fun _ => rfl) (fun _ => rfl) (fun _ => rfl)
        fun | .idleLimit l, _ => ⟨l, rfl⟩
  | enableSensors =>
      exact codec_enableSensors.faithful rfl rfl (fun _ => rfl) (fun _ => rfl) (fun _ => rfl)
        fun | .enableSensors e, _ => ⟨e, rfl⟩
  | trimValues =>
      exact codec_trimValues.faithful rfl rfl (fun _ => rfl) (fun _ => rfl) (fun _ => rfl)
        fun | .trimValues t, _ => ⟨t, rfl⟩
  | revvingParameters =>
      exact codec_revvingParameters.faithful rfl rfl (fun _ => rfl) (fun _ => rfl) (fun _ => rfl)
        fun | .revvingParameters r, _ => ⟨r, rfl⟩
  | positionControllerParameters =>
      exact (codec_gains _).faithful rfl rfl (fun _ => rfl) (fun _ => rfl) (fun _ => rfl)
        fun | .positionControllerParameters g, _ => ⟨g, rfl⟩
  | yawControllerParameters =>
      exact (codec_gains _).faithful rfl rfl (fun _ => rfl) (fun _ => rfl) (fun _ => rfl)
        fun | .yawControllerParameters g, _ => ⟨g, rfl⟩
  | sensorData =>
      exact codec_sensorData.faithful rfl rfl (fun _ => rfl) (fun _ => rfl) (fun _ => rfl)
        fun | .sensorData s, _ => ⟨s, rfl⟩
  | javiatorData =>
      exact codec_javiatorData.faithful rfl rfl (fun _ => rfl) (fun _ => rfl) (fun _ => rfl)
        fun | .javiatorData j, _ => ⟨j, rfl⟩
  | motorOffsets =>
      exact codec_motorOffsets.faithful rfl rfl (fun _ => rfl) (fun _ => rfl) (fun _ => rfl)
        fun | .motorOffsets m, _ => ⟨m, rfl⟩
  | groundReport =>
      exact codec_groundReport.faithful rfl rfl (fun _ => rfl) (fun _ => rfl) (fun _ => rfl)
        fun | .groundReport g, _ => ⟨g, rfl⟩
  | simulationData =>
      exact codec_simulationData.faithful rfl rfl (fun _ => rfl) (fun _ => rfl) (fun _ => rfl)
        fun | .simulationData s, _ => ⟨s, rfl⟩
  | pilotData =>
      -- A line of any length is kept as it is.
      refine ⟨?_, ?_, ?_, fun payload _ => ⟨.pilotData ⟨payload⟩, rfl, rfl, rfl⟩⟩
      · rintro body - n ⟨⟩
      · rintro (_ | _ | _ | _ | _ | _ | _ | _ | _ | _ | _ | _ | _ | _) ⟨⟩
        rfl
      · rintro n ⟨⟩

/-- What a payload is read as, it is read as again when it is written. -/
theorem Faithful.of_decode {k : Kind} (h : k.Faithful) {payload : Bytes} {body : Body}
    (hdecode : k.decode payload = .ok body) : (∀ n ∈ k.payloadLength?, payload.length = n) ∧
      body.kind = k ∧ body.encode = k.canonical payload ∧ k.decode body.encode = .ok body := by
  have hlength : ∀ n ∈ k.payloadLength?, payload.length = n := by
    intro n hn
    by_contra hne
    cases hdecode.symm.trans (h.refuses n hn payload hne)
  obtain ⟨body', hkind, hread, hwritten⟩ := h.accepts payload hlength
  cases hdecode.symm.trans hread
  exact ⟨hlength, hkind, hwritten, h.decode_encode body hkind⟩

theorem decode_family_ok_iff {k : Kind} {payload : Bytes} {m : Message} :
    k.family.decode payload = .ok m ↔ ∃ body, k.decode payload = .ok body ∧ m = .known body := by
  rw [decode_family]
  constructor
  · intro h
    obtain ⟨body, hdecode, rfl⟩ := exists_of_map_ok h
    exact ⟨body, hdecode, rfl⟩
  · rintro ⟨body, hdecode, rfl⟩
    rw [hdecode]
    rfl

/-- **The catalogue is a faithful codec.**  What is written has the length of its kind and is read
back.  A payload is read if and only if it has that length and is otherwise refused by the
name of the kind; what has been read is written again as the same payload, up to a flag and a
reserved word, and read again as the same. -/
theorem catalogue_faithful (k : Kind) :
    (k.payloadLength? = none ↔ k = .pilotData) ∧
    (∀ body : Body, body.kind = k →
      (∀ n ∈ k.payloadLength?, body.encode.length = n) ∧
        k.family.decode body.encode = .ok (.known body)) ∧
    ∀ payload : Bytes,
      ((∃ m, k.family.decode payload = .ok m) ↔ ∀ n ∈ k.payloadLength?, payload.length = n) ∧
      (∀ n ∈ k.payloadLength?, payload.length ≠ n →
        k.family.decode payload = .error (.payloadLength k.name n payload.length)) ∧
      ∀ m, k.family.decode payload = .ok m → m.family = k.family ∧
        m.encode = k.canonical payload ∧ k.family.decode m.encode = .ok m := by
  have h := k.faithful
  refine ⟨by cases k <;> decide, ?_, fun payload => ⟨⟨?_, ?_⟩, ?_, ?_⟩⟩
  · intro body hk
    exact ⟨h.length_encode body hk,
      decode_family_ok_iff.mpr ⟨body, h.decode_encode body hk, rfl⟩⟩
  · rintro ⟨m, hm⟩
    obtain ⟨body, hdecode, -⟩ := decode_family_ok_iff.mp hm
    exact (h.of_decode hdecode).1
  · intro hlength
    obtain ⟨body, -, hread, -⟩ := h.accepts payload hlength
    exact ⟨.known body, decode_family_ok_iff.mpr ⟨body, hread, rfl⟩⟩
  · intro n hn hne
    rw [decode_family, h.refuses n hn payload hne]
    rfl
  · intro m hm
    obtain ⟨body, hdecode, rfl⟩ := decode_family_ok_iff.mp hm
    obtain ⟨-, hkind, hwritten, hagain⟩ := h.of_decode hdecode
    exact ⟨congrArg Kind.family hkind, hwritten, decode_family_ok_iff.mpr ⟨body, hagain, rfl⟩⟩

/-- A reserved word that is not zero is read and lost, and a report that is one byte short is
refused as a report. -/
theorem catalogue_faithful_reserved_word :
    (∃ m, Kind.revvingParameters.family.decode [0, 1, 0, 2, 255, 253, 0, 4, 9, 9] = .ok m ∧
      m.encode = [0, 1, 0, 2, 255, 253, 0, 4, 0, 0] ∧
      Kind.revvingParameters.family.decode [0, 1, 0, 2, 255, 253, 0, 4, 0, 0] = .ok m) ∧
    Kind.groundReport.family.decode (List.replicate 57 0) =
      .error (.payloadLength "GroundReport" 58 57) := by
  obtain ⟨-, -, hpayload⟩ := catalogue_faithful .revvingParameters
  obtain ⟨hread, -, hagain⟩ := hpayload [0, 1, 0, 2, 255, 253, 0, 4, 9, 9]
  obtain ⟨m, hm⟩ := hread.mpr (by decide)
  obtain ⟨-, hwritten, hsame⟩ := hagain m hm
  have hcanonical : m.encode = [0, 1, 0, 2, 255, 253, 0, 4, 0, 0] := hwritten
  refine ⟨⟨m, hm, hcanonical, hcanonical ▸ hsame⟩, ?_⟩
  obtain ⟨-, -, hreport⟩ := catalogue_faithful .groundReport
  exact (hreport (List.replicate 57 0)).2.1 58 rfl (by decide)

end Kind

end TelemetryRelay
