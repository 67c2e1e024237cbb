import TelemetryRelay.Message.Layout
import TelemetryRelay.Proofs.Bytes

/-!
# What a layout guarantees

A row of fields is read back as it was written, and every payload of the right length is
a row of fields.  So a record whose row has nothing but what the record keeps is a
faithful reading of its payload: `Codec`.
-/

namespace TelemetryRelay

variable {α β φ : Type}

/-! ## Fields -/

namespace Field

variable {f : Field φ} {count : Nat}

/-- Every number is spelled in `width` bytes, and every `width` bytes spell a number. -/
structure Exact (f : Field φ) : Prop where
  length_encode : ∀ x, (f.encode x).length = f.width
  decode_encode : ∀ x, f.decode (f.encode x) = x
  encode_decode : ∀ bs, bs.length = f.width → f.encode (f.decode bs) = bs

theorem exact_word : word.Exact where
  length_encode _ := Bytes.length_ofNat _ _
  decode_encode w := by
    have hw : w.toUInt16.toNat < 65536 := w.toUInt16.toNat_lt
    have hspelled : Bytes.toNat (Bytes.ofNat 2 w.toUInt16.toNat) = w.toUInt16.toNat := by
      rw [Bytes.toNat_ofNat]
      exact Nat.mod_eq_of_lt hw
    simp only [word, hspelled, UInt16.ofNat_toNat, Int16.toInt16_toUInt16]
  encode_decode bs hlength := by
    have hbound : Bytes.toNat bs < 65536 := by
      have hlt := Bytes.toNat_lt bs
      rwa [hlength] at hlt
    have hkept : (UInt16.ofNat (Bytes.toNat bs)).toInt16.toUInt16.toNat = Bytes.toNat bs := by
      rw [UInt16.toUInt16_toInt16, UInt16.toNat_ofNat_of_lt' hbound]
    simp only [word] at hlength ⊢
    rw [hkept, ← hlength, Bytes.ofNat_toNat]

theorem exact_double : double.Exact where
  length_encode _ := Bytes.length_ofNat _ _
  decode_encode d := by
    have hspelled : Bytes.toNat (Bytes.ofNat 8 (UInt64.toNat d)) = UInt64.toNat d := by
      rw [Bytes.toNat_ofNat]
      exact Nat.mod_eq_of_lt (UInt64.toNat_lt d)
    simp only [double, hspelled, UInt64.ofNat_toNat]
  encode_decode bs hlength := by
    have hbound : Bytes.toNat bs < 18446744073709551616 := by
      have hlt := Bytes.toNat_lt bs
      rwa [hlength] at hlt
    simp only [double] at hlength ⊢
    rw [UInt64.toNat_ofNat_of_lt' hbound, ← hlength, Bytes.ofNat_toNat]

/-! ## Rows -/

theorem pieces_flatMap (h : f.Exact) (row : List φ) :
    Bytes.pieces f.width row.length (row.flatMap f.encode) = row.map f.encode := by
  induction row with
  | nil => rfl
  | cons x row ih =>
      have hx := h.length_encode x
      rw [List.flatMap_cons, List.length_cons, Bytes.pieces, List.take_left' hx,
        List.drop_left' hx, ih, List.map_cons]

theorem flatMap_pieces (h : f.Exact) {bs : Bytes} (hlength : bs.length = count * f.width) :
    ((bs.pieces f.width count).map f.decode).flatMap f.encode = bs := by
  induction count generalizing bs with
  | zero =>
      rw [Nat.zero_mul, List.length_eq_zero_iff] at hlength
      rw [hlength]
      rfl
  | succ count ih =>
      rw [Nat.succ_mul] at hlength
      have hfirst : (bs.take f.width).length = f.width := by
        rw [List.length_take]
        omega
      have hrest : (bs.drop f.width).length = count * f.width := by
        rw [List.length_drop]
        omega
      rw [Bytes.pieces, List.map_cons, List.flatMap_cons, ih hrest, h.encode_decode _ hfirst,
        List.take_append_drop]

theorem length_encodeRow (h : f.Exact) (row : Vector φ count) :
    (f.encodeRow row).length = count * f.width := by
  have hsum (xs : List φ) : (xs.flatMap f.encode).length = xs.length * f.width := by
    induction xs with
    | nil => simp
    | cons x xs ih =>
        rw [List.flatMap_cons, List.length_append, ih, h.length_encode, List.length_cons,
          Nat.succ_mul, Nat.add_comm]
  rw [encodeRow, hsum, Vector.length_toList]

theorem decodeRow_encodeRow (h : f.Exact) (row : Vector φ count) :
    f.decodeRow count (f.encodeRow row) = row := by
  have hpieces := pieces_flatMap h row.toList
  rw [Vector.length_toList] at hpieces
  have hback : (row.toList.map f.encode).map f.decode = row.toList := by
    rw [List.map_map]
    exact (List.map_congr_left fun x _ => h.decode_encode x).trans (List.map_id _)
  apply Vector.toList_inj.mp
  show (((f.encodeRow row).pieces f.width count).map f.decode).toArray.toList = row.toList
  rw [encodeRow, hpieces, hback]

theorem encodeRow_decodeRow (h : f.Exact) {bs : Bytes} (hlength : bs.length = count * f.width) :
    f.encodeRow (f.decodeRow count bs) = bs :=
  flatMap_pieces h hlength

end Field

/-! ## Payloads -/

theorem exists_of_map_ok {ε : Type} {g : α → β} {x : Except ε α} {b : β}
    (h : x.map g = .ok b) : ∃ a, x = .ok a ∧ g a = b := by
  cases x with
  | error e => cases h
  | ok a =>
      cases h
      exact ⟨a, rfl, rfl⟩

theorem Kind.readRow_of_length (k : Kind) {f : Field φ} {count : Nat} {payload : Bytes}
    (h : payload.length = count * f.width) :
    k.readRow f count payload = .ok (f.decodeRow count payload) :=
  if_pos h

theorem Kind.readRow_encodeRow (k : Kind) {f : Field φ} {count : Nat} (h : f.Exact)
    (row : Vector φ count) : k.readRow f count (f.encodeRow row) = .ok row := by
  rw [k.readRow_of_length (Field.length_encodeRow h row), Field.decodeRow_encodeRow h]

/-- Reading accepts the payloads of one length and no others, which it refuses under the
name of the kind, and finds in a payload what was written.  What has been read is written as
the canonical form of its payload. -/
structure Codec (k : Kind) (length : Nat) (encode : α → Bytes)
    (decode : Bytes → Except MessageError α) (canonical : Bytes → Bytes) : Prop where
  length_encode : ∀ a, (encode a).length = length
  decode_encode : ∀ a, decode (encode a) = .ok a
  refuses : ∀ payload, payload.length ≠ length →
    decode payload = .error (.payloadLength k.name length payload.length)
  accepts : ∀ payload, payload.length = length →
    ∃ a, decode payload = .ok a ∧ encode a = canonical payload

namespace Message.Layout

/-- **A row of exact fields is read and written faithfully**, up to what the record does not
keep of it. -/
theorem codec (l : Layout α φ) (k : Kind) (h : l.field.Exact) {length : Nat}
    (hlength : length = l.count * l.field.width) {canonical : Bytes → Bytes}
    (hcanonical : ∀ row, l.encode (l.ofRow row) = canonical (l.field.encodeRow row)) :
    Codec k length l.encode (l.decode k) canonical where
  length_encode a := (Field.length_encodeRow h _).trans hlength.symm
  decode_encode a := by
    rw [decode, encode, k.readRow_encodeRow h, Except.map, l.ofRow_row]
  refuses payload hne := by
    rw [hlength] at hne
    rw [decode, Kind.readRow, if_neg hne, hlength]
    rfl
  accepts payload hpayload := by
    rw [hlength] at hpayload
    refine ⟨l.ofRow (l.field.decodeRow l.count payload), ?_, ?_⟩
    · rw [decode, k.readRow_of_length hpayload]
      rfl
    · rw [hcanonical, Field.encodeRow_decodeRow h hpayload]

end Message.Layout

end TelemetryRelay
