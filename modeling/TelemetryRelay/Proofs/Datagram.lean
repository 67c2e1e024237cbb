import TelemetryRelay.Datagram
import TelemetryRelay.Proofs.Wire.Stream

/-!
# Datagrams stand alone

A receive waits at its socket again and again, and all that arrives meanwhile goes through
one buffer.  Nothing of that is seen in what it comes to: receives one after the other
return one result for each datagram that counts, in order, and each is what the first bytes
of that datagram are read as, alone.
-/

namespace TelemetryRelay

open Wire
open Source (Delivers)

namespace Buffer

/-- What is behind the bytes that were stored last is not read. -/
theorem take_store (b : Buffer) (datagram : Bytes) :
    (b.store datagram).bytes.take (room datagram) = datagram.take maxDatagram := by
  have hroom : (datagram.take maxDatagram).length = room datagram := by
    rw [List.length_take, room, Nat.min_comm]
  exact List.take_left' hroom

end Buffer

/-- What was heard in a wait, and when. -/
def Wait.heard? : Wait → Option (Datagram × Nat)
  | .heard g now => some (g, now)
  | _ => none

namespace DatagramLink

/-- What was heard of those who count: a client listens to its remote party, a server to
all. -/
def heeded (d : DatagramLink) (ws : List Wait) : List (Datagram × Nat) :=
  match d.mode with
  | .client remote => (ws.filterMap Wait.heard?).filter (·.1.sender = remote)
  | .server _ => ws.filterMap Wait.heard?

/-- Receives one after the other, each with a buffer that holds whatever it holds; one that
nothing ends is the last. -/
def receives (d : DatagramLink) :
    List Buffer → List Wait → List (Except LinkError Frame) × List Wait × DatagramLink
  | [], ws => ([], ws, d)
  | b :: bs, ws =>
    match d.receiveFrom b ws with
    | (none, left, d) => ([], left, d)
    | (some r, left, d) =>
      let (rs, left, d) := receives d bs left
      (r :: rs, left, d)

/-- What a link remembers of the datagrams that it took. -/
def noteAll (d : DatagramLink) (heard : List (Datagram × Nat)) : DatagramLink :=
  heard.foldl (fun d p => d.note p.2 p.1.sender) d

/-- What the first bytes of a datagram are read as. -/
def resultOf (g : Datagram) : Except LinkError Frame := decode (g.bytes.take maxDatagram)

variable {d : DatagramLink} {ws : List Wait} {remote : Address} {timeout : Nat}

/-! ## What is read from a datagram -/

theorem delivers_putBack (bytes : Bytes) : Delivers [] (Source.putBack bytes []) bytes := by
  cases bytes with
  | nil => exact .done
  | cons b bs => simpa [Source.putBack] using Delivers.chunk (List.cons_ne_nil b bs) .done

/-- A datagram is read like a stream of its bytes that ends with them. -/
theorem decode_eq_readFrame {source : Source} {bytes : Bytes} (h : Delivers [] source bytes) :
    decode bytes = (readFrame source).1.mapError .broken := by
  obtain ⟨left, hread, -⟩ := readFrame_eq_parse h
  obtain ⟨left', hread', -⟩ := readFrame_eq_parse (delivers_putBack bytes)
  unfold decode
  rw [hread, hread']
  cases (parse bytes).1 <;> rfl

theorem decode_eq_parse (bytes : Bytes) : decode bytes = (parse bytes).1.mapError .broken := by
  obtain ⟨left, hread, -⟩ := readFrame_eq_parse (delivers_putBack bytes)
  rw [decode_eq_readFrame (delivers_putBack bytes), hread]

/-- Every frame has room in a datagram. -/
theorem length_encode_le (f : Frame) : f.encode.length ≤ maxDatagram := by
  rw [f.length_encode]
  exact Nat.add_le_add_right f.fits 6

/-- What trails a frame in its datagram does not matter. -/
theorem decode_encode (f : Frame) (trailing : Bytes) :
    decode ((f.encode ++ trailing).take maxDatagram) = .ok f := by
  have hcut : (f.encode ++ trailing).take maxDatagram =
      [] ++ (f.encode ++ trailing.take (maxDatagram - f.encode.length)) := by
    rw [List.take_append, List.take_of_length_le (length_encode_le f)]
    rfl
  have hdelivers := delivers_putBack ((f.encode ++ trailing).take maxDatagram)
  have hskipped : Skipped [] := ⟨not_markerAt_nil, by simp⟩
  obtain ⟨left, hframe, -⟩ := readFrame_of_skipped hskipped (hcut ▸ hdelivers)
  rw [decode_eq_readFrame hdelivers, hcut, hframe]
  rfl

/-! ## Who counts -/

theorem mode_note (d : DatagramLink) (now : Nat) (sender : Address) :
    (d.note now sender).mode = d.mode := by
  unfold note
  split <;> rfl

theorem heeded_noteAll (d : DatagramLink) (heard : List (Datagram × Nat)) (ws : List Wait) :
    (d.noteAll heard).heeded ws = d.heeded ws := by
  induction heard generalizing d with
  | nil => rfl
  | cons p rest ih =>
      refine (ih _).trans ?_
      simp only [heeded, mode_note]

theorem noteAll_of_client (hmode : d.mode = .client remote) (heard : List (Datagram × Nat)) :
    d.noteAll heard = d := by
  induction heard with
  | nil => rfl
  | cons p rest ih =>
      have hnote : d.note p.2 p.1.sender = d := by simp [note, hmode]
      rw [noteAll, List.foldl_cons, hnote]
      exact ih

theorem heeded_cons (d : DatagramLink) (w : Wait) (ws : List Wait) : d.heeded (w :: ws) =
    (w.heard?.filter fun p => d.minds p.1.sender).toList ++ d.heeded ws := by
  unfold heeded minds
  cases d.mode with
  | server timeout => cases w <;> rfl
  | client remote =>
      cases w with
      | heard g now =>
          by_cases hg : g.sender = remote <;> simp [Wait.heard?, Option.filter, hg]
      | _ => rfl

/-! ## Receives -/

/-- A receive takes the first datagram that counts: what was in its buffer, how often it
waited in vain and what it ignored are not seen. -/
theorem receiveFrom_eq (sound : ∀ e, .failed e ∉ ws) (b : Buffer) :
    ∃ left, left <:+ ws ∧ d.heeded left = (d.heeded ws).tail ∧
      d.receiveFrom b ws = ((d.heeded ws).head?.map fun p => resultOf p.1, left,
        d.noteAll (d.heeded ws).head?.toList) := by
  induction ws generalizing b with
  | nil =>
      have hnone : d.heeded [] = [] := by
        unfold heeded
        split <;> rfl
      rw [hnone]
      exact ⟨[], List.suffix_rfl, hnone, rfl⟩
  | cons w ws ih =>
      have hsound : ∀ e, .failed e ∉ ws := fun e h => sound e (List.mem_cons_of_mem w h)
      rw [heeded_cons]
      cases w with
      | failed e => exact absurd List.mem_cons_self (sound e)
      | timedOut =>
          obtain ⟨left, hsuffix, hleft⟩ := ih hsound b
          exact ⟨left, hsuffix.trans (List.suffix_cons ..), hleft⟩
      | heard g now =>
          by_cases hminds : d.minds g.sender = true
          · simp only [Wait.heard?, Option.filter, hminds, if_true, receiveFrom, Buffer.take_store]
            exact ⟨ws, List.suffix_cons .., rfl, rfl⟩
          · simp only [Wait.heard?, Option.filter, hminds, Bool.false_eq_true, if_false,
              receiveFrom]
            obtain ⟨left, hsuffix, hleft⟩ := ih hsound (b.store g.bytes)
            exact ⟨left, hsuffix.trans (List.suffix_cons ..), hleft⟩

theorem receives_eq (sound : ∀ e, .failed e ∉ ws) (bs : List Buffer) :
    ∃ left, d.heeded left = (d.heeded ws).drop bs.length ∧
      d.receives bs ws = (((d.heeded ws).take bs.length).map fun p => resultOf p.1, left,
        d.noteAll ((d.heeded ws).take bs.length)) := by
  induction bs generalizing d ws with
  | nil => exact ⟨ws, rfl, rfl⟩
  | cons b bs ih =>
      obtain ⟨left, hsuffix, hleft, hfirst⟩ := receiveFrom_eq (d := d) sound b
      have hsound : ∀ e, .failed e ∉ left := fun e h => sound e (hsuffix.subset h)
      rw [receives, hfirst]
      cases hheeded : d.heeded ws with
      | nil => exact ⟨left, by rw [hleft, hheeded]; rfl, rfl⟩
      | cons p rest =>
          obtain ⟨left', hleft', hrest⟩ := ih (d := d.noteAll [p]) hsound
          simp only [heeded_noteAll, hleft, hheeded, List.tail_cons] at hleft' hrest
          refine ⟨left', hleft', ?_⟩
          simp only [List.head?_cons, Option.map_some, Option.toList_some, hrest]
          rfl

/-- What waits at the socket now is received like what comes to it. -/
theorem receive_eq (d : DatagramLink) (now : Nat) :
    ∃ inbox : List Datagram,
      d.heeded (inbox.map (.heard · now)) = (d.heeded (d.inbox.map (.heard · now))).tail ∧
      d.receive now = ((d.heeded (d.inbox.map (.heard · now))).head?.map fun p => resultOf p.1,
        { d.noteAll (d.heeded (d.inbox.map (.heard · now))).head?.toList with inbox }) := by
  have hsound : ∀ e, Wait.failed e ∉ d.inbox.map (.heard · now) := by simp
  obtain ⟨left, hsuffix, hleft, hreceive⟩ := receiveFrom_eq (d := d) hsound .blank
  obtain ⟨inbox, rfl⟩ : ∃ inbox : List Datagram, left = inbox.map (.heard · now) :=
    ⟨_, (List.suffix_iff_eq_drop.mp hsuffix).trans List.map_drop.symm⟩
  have hback : (inbox.map (.heard · now)).filterMap Wait.datagram? = inbox := by
    simp [List.filterMap_map, Function.comp_def, Wait.datagram?]
  exact ⟨inbox, hleft, by rw [receive, hreceive]; simp only [hback]⟩

/-- **Datagrams stand alone.**  As long as the socket does not fail, receives one after the
other return one result for each datagram that counts, wherever they have to wait in vain
and whatever their buffers held before; the others leave no trace.  Each result is what the
first bytes of its datagram are read as, and every frame survives, whatever trails it. -/
theorem receives_alone (d : DatagramLink) (bs : List Buffer) (ws : List Wait)
    (sound : ∀ e, .failed e ∉ ws) :
    (d.receives bs ws).1 = ((d.heeded ws).take bs.length).map (fun p => resultOf p.1) ∧
    d.heeded (d.receives bs ws).2.1 = (d.heeded ws).drop bs.length ∧
    (d.receives bs ws).2.2 = d.noteAll ((d.heeded ws).take bs.length) ∧
    (∀ remote, d.mode = .client remote → (d.receives bs ws).2.2 = d) ∧
    (∀ now, ∃ inbox : List Datagram,
      d.heeded (inbox.map (.heard · now)) = (d.heeded (d.inbox.map (.heard · now))).tail ∧
      d.receive now = ((d.heeded (d.inbox.map (.heard · now))).head?.map fun p => resultOf p.1,
        { d.noteAll (d.heeded (d.inbox.map (.heard · now))).head?.toList with inbox })) ∧
    (∀ g source, Delivers [] source (g.bytes.take maxDatagram) →
      resultOf g = (readFrame source).1.mapError .broken) ∧
    ∀ (f : Frame) (sender : Address) (trailing : Bytes), f.encode.length ≤ maxDatagram ∧
      resultOf ⟨sender, f.encode ++ trailing⟩ = .ok f := by
  obtain ⟨left, hleft, hreceives⟩ := receives_eq sound bs (d := d)
  rw [hreceives]
  exact ⟨rfl, hleft, rfl, fun remote hmode => noteAll_of_client hmode _, receive_eq d,
    fun g source h => decode_eq_readFrame h,
    fun f sender trailing => ⟨length_encode_le f, decode_encode f trailing⟩⟩

/-- A client that talks to the party `ground`. -/
def caller : DatagramLink := { mode := .client "ground", address := "drone" }

def greeting : Frame := ⟨13, [7], by decide⟩

/-- The party itself is heard with a frame and far too much behind it, with an empty
datagram, with a checksum that is wrong and with a frame again; a stranger comes between. -/
def chatter : List Wait :=
  [.timedOut, .heard ⟨"stranger", [255, 255, 9, 0, 0, 9]⟩ 1,
    .heard ⟨"ground", greeting.encode ++ List.replicate 200 255⟩ 2, .timedOut,
    .heard ⟨"ground", []⟩ 3, .heard ⟨"stranger", [1]⟩ 4,
    .heard ⟨"ground", [255, 255, 13, 0, 0, 14]⟩ 5, .timedOut,
    .heard ⟨"ground", [8, 255, 255, 2, 0, 0, 2]⟩ 6]

theorem receives_alone_chatter :
    (∀ e, Wait.failed e ∉ chatter) ∧
    (caller.receives (List.replicate 4 .blank) chatter).1 =
      [.ok greeting, .error (.broken .noMarker), .error (.broken (.badChecksum 13 14)),
        .ok ⟨2, [], by decide⟩] ∧
    (caller.receives (List.replicate 4 .blank) chatter).2.2 = caller := by
  have sound : ∀ e, Wait.failed e ∉ chatter := by simp [chatter]
  obtain ⟨hresults, -, -, hclient, -, -, hframes⟩ :=
    receives_alone caller (List.replicate 4 .blank) chatter sound
  refine ⟨sound, hresults.trans ?_, hclient "ground" rfl⟩
  have hheeded : caller.heeded chatter =
      [(⟨"ground", greeting.encode ++ List.replicate 200 255⟩, 2), (⟨"ground", []⟩, 3),
        (⟨"ground", [255, 255, 13, 0, 0, 14]⟩, 5), (⟨"ground", [8, 255, 255, 2, 0, 0, 2]⟩, 6)] := by
    rfl
  have hrest : ∀ bytes, resultOf ⟨"ground", bytes⟩ =
      (parse (bytes.take maxDatagram)).1.mapError .broken := fun _ => decode_eq_parse _
  simp only [hheeded, List.length_replicate, List.take_succ_cons, List.take_nil, List.map_cons,
    List.map_nil, (hframes greeting "ground" _).2, hrest]
  rfl

end DatagramLink

end TelemetryRelay
