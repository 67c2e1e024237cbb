import Mathlib.Data.List.Nodup
import TelemetryRelay.Proofs.Datagram
import TelemetryRelay.Proofs.Node.Lineage
import TelemetryRelay.Proofs.Node.Transports

/-!
# Who is heard is sent to

A server sends each frame to the peers that it knows, and it knows them from what it heard
and forgets them while it sends.  `Remembers` says how its memory relates to the whole
history of what it took in: what it knows is when a peer was heard last, and whom it has
forgotten was heard too long ago ever to count again.  So its frames go to those who were
heard lately, by the history alone, and each of them gets one copy.
-/

namespace TelemetryRelay

open Wire

def Carrier.datagram? : Carrier → Option DatagramLink
  | .datagram d => some d
  | _ => none

/-- When a party was heard last. -/
def lastHeard (heard : List (Address × Nat)) (x : Address) : Option Nat :=
  (heard.filter (·.1 = x)).getLast?.map (·.2)

/-- Whether a party was heard last no earlier than `timeout` ago. -/
def heardLately (heard : List (Address × Nat)) (timeout now : Nat) (x : Address) : Bool :=
  (lastHeard heard x).any fun time => now ≤ time + timeout

theorem lastHeard_snoc (heard : List (Address × Nat)) (x y : Address) (time : Nat) :
    lastHeard (heard ++ [(y, time)]) x = if y = x then some time else lastHeard heard x := by
  unfold lastHeard
  by_cases h : y = x <;> simp [List.filter_append, h]

namespace DatagramLink

/-- What a server knows of whom it heard. -/
structure Remembers (d : DatagramLink) (timeout now : Nat) (heard : List (Address × Nat)) :
    Prop where
  mode : d.mode = .server timeout
  distinct : d.peers.keys.Nodup
  known : ∀ x time, d.peers.get? x = some time → lastHeard heard x = some time
  forgotten : ∀ x time, d.peers.get? x = none → lastHeard heard x = some time →
    time + timeout < now

variable {d d' : DatagramLink} {timeout now now' : Nat} {heard : List (Address × Nat)}

theorem Remembers.congr (h : d.Remembers timeout now heard) (hmode : d'.mode = d.mode)
    (hpeers : d'.peers = d.peers) (hnow : now ≤ now') : d'.Remembers timeout now' heard := by
  refine ⟨hmode.trans h.mode, hpeers ▸ h.distinct, hpeers ▸ h.known, fun x time hx htime => ?_⟩
  exact Nat.lt_of_lt_of_le (h.forgotten x time (hpeers ▸ hx) htime) hnow

theorem Remembers.set (h : d.Remembers timeout now heard) (x : Address) :
    ({ d with peers := d.peers.set x now }).Remembers timeout now (heard ++ [(x, now)]) := by
  refine ⟨h.mode, Assoc.nodup_keys_set h.distinct .., fun y time hy => ?_, fun y time hy htime => ?_⟩
  · rw [lastHeard_snoc]
    rw [Assoc.get?_set] at hy
    by_cases hxy : x = y
    · rw [if_pos hxy.symm] at hy
      rw [if_pos hxy, hy]
    · rw [if_neg (Ne.symm hxy)] at hy
      rw [if_neg hxy]
      exact h.known y time hy
  · rw [Assoc.get?_set] at hy
    by_cases hxy : x = y
    · rw [if_pos hxy.symm] at hy
      cases hy
    · rw [if_neg (Ne.symm hxy)] at hy
      rw [lastHeard_snoc, if_neg hxy] at htime
      exact h.forgotten y time hy htime

theorem get?_fresh (hdistinct : d.peers.keys.Nodup) (x : Address) :
    (d.fresh timeout now).get? x = (d.peers.get? x).filter fun time => now - time ≤ timeout :=
  Assoc.get?_filter hdistinct _ x

/-- Whom a server forgets while it sends was heard too long ago. -/
theorem Remembers.fresh (h : d.Remembers timeout now heard) :
    ({ d with peers := d.fresh timeout now }).Remembers timeout now heard := by
  refine ⟨h.mode, Assoc.nodup_keys_filter h.distinct _, fun x time hx => ?_, fun x time hx htime => ?_⟩
  · rw [get?_fresh h.distinct] at hx
    exact h.known x time (Option.filter_eq_some_iff.mp hx).1
  · rw [get?_fresh h.distinct] at hx
    cases hget : d.peers.get? x with
    | none => exact h.forgotten x time hget htime
    | some time' =>
        cases htime.symm.trans (h.known x time' hget)
        rw [hget] at hx
        simp only [Option.filter_some, decide_eq_true_eq, ite_eq_right_iff, reduceCtorEq,
          imp_false, Nat.not_le] at hx
        omega

/-- **A server sends to those it heard lately**, to each of them once. -/
theorem Remembers.mem_targets (h : d.Remembers timeout now heard) :
    (d.targets now).1.Nodup ∧
      ∀ x, x ∈ (d.targets now).1 ↔ heardLately heard timeout now x = true := by
  have htargets : (d.targets now).1 = (d.fresh timeout now).keys := by simp [targets, h.mode]
  rw [htargets]
  refine ⟨Assoc.nodup_keys_filter h.distinct _, fun x => ?_⟩
  rw [Assoc.mem_keys_iff, heardLately, get?_fresh h.distinct]
  cases hget : d.peers.get? x with
  | some time =>
      rw [h.known x time hget]
      simp only [Option.filter_some, Option.any_some, decide_eq_true_eq]
      constructor
      · rintro ⟨v, hv⟩
        split at hv
        · omega
        · cases hv
      · intro hlate
        exact ⟨time, if_pos (by omega)⟩
  | none =>
      constructor
      · rintro ⟨v, hv⟩
        cases hv
      · intro hlate
        obtain ⟨time, htime, hle⟩ := (Option.any_eq_true ..).mp hlate
        have hlt := h.forgotten x time hget htime
        have hle : now ≤ time + timeout := by simpa using hle
        omega

/-- A server takes what came first, and remembers when it heard its sender. -/
theorem receive_of_server (hmode : d.mode = .server timeout) {g : Datagram} {rest : List Datagram}
    (hinbox : d.inbox = g :: rest) : d.receive now =
      (some (resultOf g), { d with peers := d.peers.set g.sender now, inbox := rest }) := by
  have hminds : d.minds g.sender = true := by simp [minds, hmode]
  have hrest : (rest.map (.heard · now)).filterMap Wait.datagram? = rest := by
    simp [List.filterMap_map, Function.comp_def, Wait.datagram?]
  simp only [receive, hinbox, List.map_cons, receiveFrom, hminds, if_true, Buffer.take_store,
    note, hmode, hrest]
  rfl

end DatagramLink

namespace Node

/-- The datagram link of a transport. -/
def datagram? (n : Node) (t : TransportId) : Option DatagramLink :=
  (n.transports.get? t).bind (·.carrier.datagram?)

/-- Who is heard at a transport with this move, and when. -/
def heard? (t : TransportId) : Node × Move → Option (Address × Nat)
  | (n, .step id) =>
    match n.actionOf? id with
    | some (.fetch t') =>
      if t' = t then
        (n.datagram? t).bind fun d =>
          if d.closed then none else d.inbox.head?.map fun g => (g.sender, n.now)
      else none
    | _ => none
  | (_, .outside _) => none

/-- What has come for the party at an address. -/
def postbox (n : Node) (x : Address) : List Bytes :=
  match n.datagramAt? x with
  | some (_, d) => d.inbox.map (·.bytes)
  | none => (n.mail.get? x).getD []

variable {n n' n₀ : Node} {id : TaskId} {t : TransportId} {m : Move} {ms : List Move} {f : Frame}
  {d d' d₀ : DatagramLink} {timeout : Nat} {x : Address} {tr : Transport}

/-! ## Where datagrams go -/

theorem datagram?_eq_some : n.datagram? t = some d ↔
    ∃ tr, n.transports.get? t = some tr ∧ tr.carrier = .datagram d := by
  constructor
  · intro h
    obtain ⟨tr, hget, hd⟩ := Option.bind_eq_some_iff.mp h
    cases hcarrier : tr.carrier with
    | datagram d' =>
        rw [hcarrier] at hd
        cases hd
        exact ⟨tr, hget, hcarrier⟩
    | _ =>
        rw [hcarrier] at hd
        cases hd
  · rintro ⟨tr, hget, hcarrier⟩
    simp [datagram?, hget, hcarrier, Carrier.datagram?]

/-- A datagram link that keeps its address is found like before. -/
theorem datagramAt?_setCarrier (hdistinct : n.transports.keys.Nodup) (hd : n.datagram? t = some d)
    (haddress : d'.address = d.address) (x : Address) :
    (n.setCarrier t (.datagram d')).datagramAt? x =
      (n.datagramAt? x).map fun p => if p.1 = t then (t, d') else p := by
  obtain ⟨tr, hget, hcarrier⟩ := datagram?_eq_some.mp hd
  have hset : (n.setCarrier t (.datagram d')).transports =
      n.transports.set t { tr with carrier := .datagram d' } := by
    simp [setCarrier, Assoc.modify, hget]
  unfold datagramAt?
  rw [hset]
  refine Assoc.findSome?_set hdistinct hget ?_ fun e he => ?_
  · simp only [hcarrier, haddress]
    split <;> simp
  · split
    split <;> simp [he]

theorem postbox_of_found {p : TransportId × DatagramLink} (h : n.datagramAt? x = some p) :
    n.postbox x = p.2.inbox.map (·.bytes) := by
  simp only [postbox, h]

theorem postbox_setCarrier (hdistinct : n.transports.keys.Nodup) (hd : n.datagram? t = some d)
    (haddress : d'.address = d.address) (hinbox : d'.inbox = d.inbox) (x : Address) :
    (n.setCarrier t (.datagram d')).postbox x = n.postbox x := by
  have hafter := datagramAt?_setCarrier hdistinct hd haddress x
  cases hat : n.datagramAt? x with
  | none =>
      rw [hat] at hafter
      simp only [postbox, hafter, hat]
      rfl
  | some p =>
      rw [hat, Option.map_some] at hafter
      rw [postbox_of_found hafter, postbox_of_found hat]
      split
      · rename_i ht
        obtain ⟨tr, hget, hcarrier, -⟩ := datagramAt?_eq_some hdistinct hat
        have hsame : some p.2 = some d := by
          rw [← hd, ← ht]
          exact (datagram?_eq_some.mpr ⟨tr, hget, hcarrier⟩).symm
        rw [hinbox, Option.some.inj hsame]
      · rfl

/-- A datagram comes to the party that it is addressed to, once, and to nobody else. -/
theorem postbox_deposit (hdistinct : n.transports.keys.Nodup) (g : Datagram) (address x : Address) :
    (n.deposit g address).postbox x = n.postbox x ++ if address = x then [g.bytes] else [] := by
  unfold deposit
  split
  · rename_i t d hat
    obtain ⟨tr, hget, hcarrier, haddress⟩ := datagramAt?_eq_some hdistinct hat
    have hd := datagram?_eq_some.mpr ⟨tr, hget, hcarrier⟩
    have hsame : { d with inbox := d.inbox ++ [g] }.address = d.address := rfl
    have hafter := datagramAt?_setCarrier hdistinct hd hsame x
    by_cases hx : address = x
    · subst hx
      rw [hat, Option.map_some, if_pos rfl] at hafter
      rw [postbox_of_found hafter, postbox_of_found hat]
      simp
    · rw [if_neg hx, List.append_nil]
      cases hatx : n.datagramAt? x with
      | none =>
          rw [hatx] at hafter
          simp only [postbox, hafter, hatx]
          rfl
      | some p =>
          have hne : p.1 ≠ t := by
            rintro rfl
            obtain ⟨tr', hget', hcarrier', haddress'⟩ := datagramAt?_eq_some hdistinct hatx
            cases hget.symm.trans hget'
            cases hcarrier.symm.trans hcarrier'
            exact hx (haddress.symm.trans haddress')
          rw [hatx, Option.map_some, if_neg hne] at hafter
          rw [postbox_of_found hafter, postbox_of_found hatx]
  · rename_i hat
    have hsame (mail : Assoc Address (List Bytes)) (x : Address) :
        { n with mail }.datagramAt? x = n.datagramAt? x := rfl
    simp only [postbox, hsame]
    by_cases hx : address = x
    · subst hx
      simp [hat]
    · cases n.datagramAt? x <;> simp [hx, Ne.symm hx]

theorem postbox_deposits (hdistinct : n.transports.keys.Nodup) (g : Datagram) (peers : List Address)
    (x : Address) : (peers.foldl (fun n peer => n.deposit g peer) n).postbox x =
      n.postbox x ++ List.replicate (peers.count x) g.bytes := by
  induction peers generalizing n with
  | nil => simp
  | cons peer rest ih =>
      rw [List.foldl_cons, ih (by rw [keys_deposit]; exact hdistinct), postbox_deposit hdistinct,
        List.append_assoc]
      by_cases hx : peer = x
      · simp [hx, List.replicate_succ]
      · simp [hx]

/-! ## What is heard -/

theorem datagram?_setCarrier (hd : n.datagram? t = some d) (d' : DatagramLink) :
    (n.setCarrier t (.datagram d')).datagram? t = some d' := by
  obtain ⟨tr, hget, -⟩ := datagram?_eq_some.mp hd
  simp [datagram?, get?_setCarrier hget, Carrier.datagram?]

/-- A server that hears a party remembers when. -/
theorem hears_move (hd : n.datagram? t = some d) (hmode : d.mode = .server timeout)
    {time : Nat} (hheard : heard? t (n, m) = some (x, time)) (hmove : n.move m = some n') :
    time = n.now ∧ d.closed = false ∧
      ∃ inbox, n'.datagram? t = some { d with peers := d.peers.set x n.now, inbox } := by
  cases m with
  | outside o => cases hheard
  | step id =>
      simp only [heard?] at hheard
      split at hheard
      case h_2 => cases hheard
      rename_i t' hacts
      split at hheard
      case isFalse => cases hheard
      rename_i ht
      subst ht
      rw [hd, Option.bind_some] at hheard
      split at hheard
      case isTrue => cases hheard
      rename_i hopen
      obtain ⟨g, hhead, hg⟩ := Option.map_eq_some_iff.mp hheard
      cases hg
      obtain ⟨rest, hinbox⟩ := List.head?_eq_some_iff.mp hhead
      refine ⟨rfl, Bool.eq_false_iff.mpr hopen, rest, ?_⟩
      obtain ⟨tr, hget, hcarrier⟩ := datagram?_eq_some.mp hd
      obtain ⟨after, next, hact⟩ := act_of_step hacts hmove
      obtain ⟨task, rfl⟩ := step_after hacts hact hmove
      cases Acts.of_act hact with
      | hears found on | ignores found on =>
          cases hget.symm.trans found
          cases hcarrier.symm.trans on
          rw [DatagramLink.receive_of_server hmode hinbox]
          exact datagram?_setCarrier hd _
      | callsToReceive found on | reads found on =>
          cases hget.symm.trans found
          cases hcarrier.symm.trans on
      | proceeds proceeds =>
          cases proceeds with
          | hearsNothing found on closed =>
              cases hget.symm.trans found
              cases hcarrier.symm.trans on
              exact absurd closed hopen

/-- What becomes of a datagram link with a move in which nobody is heard at it: it ends, or
forgets stale peers at most. -/
structure Idles (now : Nat) (d d' : DatagramLink) : Prop where
  mode : d'.mode = d.mode
  peers : d'.closed = true ∨
    d'.closed = d.closed ∧ (d'.peers = d.peers ∨ d'.peers = (d.targets now).2.peers)

theorem idles_targets (d : DatagramLink) (now : Nat) (inbox : List Datagram) :
    Idles now d { (d.targets now).2 with inbox } := by
  unfold DatagramLink.targets
  split
  · exact ⟨rfl, .inr ⟨rfl, .inl rfl⟩⟩
  · rename_i timeout hmode
    refine ⟨rfl, .inr ⟨rfl, .inr ?_⟩⟩
    simp [DatagramLink.targets, hmode]

theorem idles_terminate (d : DatagramLink) (now : Nat) : Idles now d d.terminate := by
  unfold DatagramLink.terminate
  split
  · exact ⟨rfl, .inl (by assumption)⟩
  · exact ⟨rfl, .inl rfl⟩

/-- What a move does to a datagram link at which nobody is heard meanwhile. -/
theorem idles_move (hn : Numbered n) (hd : n.datagram? t = some d)
    (hheard : heard? t (n, m) = none) (hmove : n.move m = some n') :
    ∃ d', n'.datagram? t = some d' ∧ Idles n.now d d' := by
  obtain ⟨tr, hget, hon⟩ := datagram?_eq_some.mp hd
  obtain ⟨tr', hget', hhandled⟩ := handled_move hn hmove hget
  suffices h : ∃ d', tr'.carrier = .datagram d' ∧ Idles n.now d d' by
    obtain ⟨d', hon', hidles⟩ := h
    exact ⟨d', datagram?_eq_some.mpr ⟨tr', hget', hon'⟩, hidles⟩
  have hkept (h : tr'.carrier = .datagram d) :
      ∃ d', tr'.carrier = .datagram d' ∧ Idles n.now d d' := ⟨d, h, rfl, .inr ⟨rfl, .inl rfl⟩⟩
  have hswells (h : Swells tr tr') : ∃ d', tr'.carrier = .datagram d' ∧ Idles n.now d d' := by
    obtain @⟨d', more, on⟩ := h
    cases hon.symm.trans on
    exact ⟨_, rfl, rfl, .inr ⟨rfl, .inl rfl⟩⟩
  cases hhandled with
  | same => exact hkept hon
  | sent => exact hkept hon
  | halts _ _ _ _ _ same => exact hkept (same d hon)
  | permits on => cases hon.symm.trans on
  | swells h => exact hswells h
  | act acts does =>
      cases does with
      | link on => cases hon.symm.trans on
      | script on => cases hon.symm.trans on
      | breaksOff on => cases hon.symm.trans on
      | outbox => exact hkept hon
      | swells h => exact hswells h
      | sends on opened more =>
          cases hon.symm.trans on
          exact ⟨_, rfl, idles_targets d n.now _⟩
      | ends on =>
          cases hon.symm.trans on
          exact ⟨_, rfl, idles_terminate d n.now⟩
      | receives on opened waits =>
          cases hon.symm.trans on
          obtain ⟨g, rest, hinbox⟩ := List.exists_cons_of_ne_nil waits
          simp [heard?, acts, hd, opened, hinbox] at hheard

/-- A server remembers whom it heard as long as it is open. -/
def Recalls (n : Node) (t : TransportId) (timeout : Nat) (heard : List (Address × Nat)) : Prop :=
  ∃ d, n.datagram? t = some d ∧ d.mode = .server timeout ∧
    (d.closed = false → d.Remembers timeout n.now heard)

theorem Recalls.move {heard : List (Address × Nat)} (h : Recalls n t timeout heard)
    (hn : Numbered n) (hmove : n.move m = some n') :
    Recalls n' t timeout (heard ++ (heard? t (n, m)).toList) := by
  obtain ⟨d, hd, hmode, hopen⟩ := h
  have hnow := now_move hn hmove
  cases hheard : heard? t (n, m) with
  | some p =>
      obtain ⟨x, time⟩ := p
      obtain ⟨rfl, hopened, inbox, hd'⟩ := hears_move hd hmode hheard hmove
      refine ⟨_, hd', hmode, fun _ => ?_⟩
      exact ((hopen hopened).set x).congr rfl rfl hnow
  | none =>
      obtain ⟨d', hd', hidles⟩ := idles_move hn hd hheard hmove
      refine ⟨d', hd', hidles.mode.trans hmode, fun hopened => ?_⟩
      rw [Option.toList_none, List.append_nil]
      rcases hidles.peers with hclosed | ⟨hsame, hpeers | hpeers⟩
      · cases hopened.symm.trans hclosed
      · exact (hopen (hsame.symm.trans hopened)).congr hidles.mode hpeers hnow
      · refine (hopen (hsame.symm.trans hopened)).fresh.congr hidles.mode (hpeers.trans ?_) hnow
        simp [DatagramLink.targets, hmode]

theorem recalls_run (hn : Numbered n₀) (hd : n₀.datagram? t = some d₀)
    (hmode : d₀.mode = .server timeout) (hnew : d₀.peers = .empty) (hrun : n₀.run ms = some n) :
    Recalls n t timeout ((history n₀ ms).filterMap (heard? t)) := by
  refine (run_induction (P := fun ms n => Numbered n ∧
    Recalls n t timeout ((history n₀ ms).filterMap (heard? t))) ?_ ?_ hrun).2
  · refine ⟨hn, d₀, hd, hmode, fun _ => ⟨hmode, ?_, ?_, ?_⟩⟩
    · rw [hnew]
      exact List.nodup_nil
    · intro x time hx
      rw [hnew] at hx
      cases hx
    · intro x time _ hx
      cases hx
  · intro ms m n n' hrun ⟨hn, hrecalls⟩ hmove
    rw [filterMap_history_snoc _ hrun]
    exact ⟨hn.move hmove, hrecalls.move hn hmove⟩

/-! ## What is sent -/

/-- An open server sends a frame to its targets: each that can be reached gets one copy. -/
theorem transmit_of_server (hdistinct : n.transports.keys.Nodup) (hd : n.datagram? t = some d)
    (hmode : d.mode = .server timeout) (hopened : d.closed = false)
    (hnodup : (d.targets n.now).1.Nodup) :
    ∃ n', n.act id (.transmit t f) = some (n', .reply (.sent (.ok ()))) ∧
      ∀ x, n'.postbox x = n.postbox x ++
        if x ∈ (d.targets n.now).1 ∧ n.reaches x then [f.encode] else [] := by
  obtain ⟨tr, hget, hon⟩ := datagram?_eq_some.mp hd
  have hreply : (n.sendDatagrams t d f).1 = .sent (.ok ()) := by
    simp [sendDatagrams, hopened, DatagramLink.targets, hmode]
  obtain ⟨result, hsent⟩ := sendDatagrams_eq n t f hopened
  obtain rfl := Reply.sent.inj (hreply.symm.trans (congrArg Prod.fst hsent))
  refine ⟨n.spread t d f, by simp [act, transmit, hget, hon, hsent], fun x => ?_⟩
  have hinbox : (d.targets n.now).2.inbox = d.inbox := by
    unfold DatagramLink.targets
    split <;> rfl
  rw [spread, postbox_deposits (by rw [keys_setCarrier]; exact hdistinct),
    postbox_setCarrier hdistinct hd (address_targets d n.now) hinbox]
  congr 1
  have hmem : x ∈ (d.targets n.now).1.filter n.reaches ↔
      x ∈ (d.targets n.now).1 ∧ n.reaches x = true := List.mem_filter
  split
  · rename_i hx
    rw [List.count_eq_one_of_mem (hnodup.filter n.reaches) (hmem.mpr hx)]
    rfl
  · rename_i hx
    rw [List.count_eq_zero_of_not_mem (mt hmem.mp hx)]
    rfl

/-- **The recipients are those that were heard lately.**  However receives and sends on a
server follow one another from its start on, a frame that is sent while it is open is sent,
once each, to those whose last datagram was taken in no earlier than the timeout allows,
whatever was in it, and to nobody else.  The send succeeds, and each of them that can be
reached gets one copy, whether or not the others can be. -/
theorem sent_to_heard (hn : Numbered n₀) (hd₀ : n₀.datagram? t = some d₀)
    (hmode : d₀.mode = .server timeout) (hnew : d₀.peers = .empty) (hrun : n₀.run ms = some n)
    (hacts : n.actionOf? id = some (.transmit t f)) (hd : n.datagram? t = some d)
    (hopened : d.closed = false) :
    let heard := (history n₀ ms).filterMap (heard? t)
    (d.targets n.now).1.Nodup ∧
    (∀ x, x ∈ (d.targets n.now).1 ↔ heardLately heard timeout n.now x = true) ∧
    ∃ n', n.step id = some n' ∧
      (∃ task, n'.tasks.get? id = some task ∧ task.activity = .replying (.sent (.ok ()))) ∧
      ∀ x, n'.postbox x = n.postbox x ++
        if heardLately heard timeout n.now x && n.reaches x then [f.encode] else [] := by
  intro heard
  obtain ⟨d', hd', hmode', hopen⟩ := recalls_run hn hd₀ hmode hnew hrun
  obtain rfl := Option.some.inj (hd'.symm.trans hd)
  obtain ⟨hnodup, hmem⟩ := (hopen hopened).mem_targets
  have hdistinct := (hn.run hrun).distinct
  obtain ⟨after, hact, hpost⟩ := transmit_of_server hdistinct hd hmode' hopened hnodup
  obtain ⟨task, found, -⟩ := Option.bind_eq_some_iff.mp hacts
  refine ⟨hnodup, hmem, after.setTask id (task.advance (.reply (.sent (.ok ())))), ?_, ?_, ?_⟩
  · rw [step_of_actionOf? found hacts, hact]
    rfl
  · exact ⟨_, found_setTask .., rfl⟩
  · intro x
    refine (hpost x).trans ?_
    simp only [hmem x, Bool.and_eq_true]
    rfl

/-- A server that waits ten milliseconds for its peers, on a network that does not lead to
`far`. -/
def tower : Node where
  reaches := (· ≠ "far")
  transports := Assoc.empty.set 0
    { carrier := .datagram { mode := .server 10, address := "tower" } }
  fresh := 1

/-- A datagram comes, and a task takes it in. -/
def hears (sender : Address) (id : TaskId) : List Move :=
  [.outside (.datagram ⟨sender, [1]⟩ "tower"), .outside (.begin (.fetch 0) none), .step id,
    .step id]

/-- Two peers are heard at first and forgotten with the send that is late; one of them comes
back before the last send. -/
def roundCalls : List Move :=
  hears "back" 1 ++ hears "gone" 2 ++ [.outside (.pass 5)] ++ hears "far" 3 ++
    [.outside (.pass 6), .outside (.begin (.transmit 0 DatagramLink.greeting) none), .step 4,
      .step 4] ++ hears "back" 5 ++
    [.outside (.pass 4), .outside (.begin (.transmit 0 DatagramLink.greeting) none)]

/-- Whether an action sends the greeting. -/
def greets : Option Action → Bool
  | some (.transmit 0 f) => f = DatagramLink.greeting
  | _ => false

/-- The last send goes to those who were heard lately: the party that has come back gets its
copy, though the other one cannot be reached. -/
theorem sent_to_heard_back :
    ∃ n n', tower.run roundCalls = some n ∧ n.step 6 = some n' ∧
      (history tower roundCalls).filterMap (heard? 0) =
        [("back", 0), ("gone", 0), ("far", 5), ("back", 11)] ∧
      n'.postbox "back" = n.postbox "back" ++ [DatagramLink.greeting.encode] ∧
      n'.postbox "far" = n.postbox "far" ∧ n'.postbox "gone" = n.postbox "gone" := by
  have hn : Numbered tower := by
    refine ⟨fun _ _ => rfl, fun x hx => ?_, fun _ _ => rfl, by decide⟩
    have hne : x ≠ 0 := Nat.ne_of_gt hx
    simp [tower, hne]
  have hheard : (history tower roundCalls).filterMap (heard? 0) =
      [("back", 0), ("gone", 0), ("far", 5), ("back", 11)] := by decide +kernel
  have hends : (tower.run roundCalls).map (fun n => (n.now, n.reaches "back", n.reaches "far",
      (n.datagram? 0).map (·.closed), greets (n.actionOf? 6))) =
      some (15, true, false, some false, true) := by decide +kernel
  obtain ⟨n, hrun, hover⟩ := Option.map_eq_some_iff.mp hends
  simp only [Prod.mk.injEq, Option.map_eq_some_iff] at hover
  obtain ⟨hnow, hback, hfar, ⟨d, hd, hopened⟩, hsends⟩ := hover
  have hacts : n.actionOf? 6 = some (.transmit 0 DatagramLink.greeting) := by
    unfold greets at hsends
    split at hsends
    · rename_i f hacts
      rw [hacts, of_decide_eq_true hsends]
    · cases hsends
  obtain ⟨-, -, n', hstep, -, hpost⟩ :=
    sent_to_heard hn rfl rfl rfl hrun hacts hd hopened
  rw [hheard, hnow] at hpost
  refine ⟨n, n', hrun, hstep, hheard, ?_, ?_, ?_⟩
  · rw [hpost, hback]
    rfl
  · rw [hpost, hfar, Bool.and_false]
    exact List.append_nil _
  · rw [hpost]
    exact List.append_nil _

end Node

end TelemetryRelay
