import TelemetryRelay.Proofs.Assoc
import TelemetryRelay.Proofs.Link.Reception
import TelemetryRelay.Proofs.Link.SingleFlight

/-!
# Received frames follow the connections

With one task that receives, a connection is read by one call after the other, each
going on where the one before was done, so all of them together read what one
reader reads who has the connection for itself.  A call that has to leave a
connection in the middle of a frame never comes back to it, and neither does any
call after it.  Connections are installed in the order of their generations, so
that is the order in which the frames come.
-/

namespace TelemetryRelay.Link

open Wire

/-- Some call has come to receive and its caller has not been answered. -/
def receives (l : Link) : Bool := l.calls.entries.any fun entry => entry.2.job == .receive

/-- A call comes to receive. -/
def Event.receives : Event → Bool
  | .call _ .receive => true
  | _ => false

/-- One task receives: it asks for the next frame when it has been answered, and after
giving up a call only if that call had not begun a frame. -/
def OneReceiver (h : List (Link × Event)) : Prop :=
  (∀ x ∈ h, x.2.receives = true → x.1.receives = false) ∧
    h.Pairwise fun x y => givesUp x = true → y.2.receives = false

instance (h : List (Link × Event)) : Decidable (OneReceiver h) :=
  inferInstanceAs (Decidable (_ ∧ _))

/-- A call to receive was given up when it had begun a frame. -/
def GaveUp (h : List (Link × Event)) : Prop := ∃ x ∈ h, givesUp x = true

variable {l l' l₀ : Link} {e : Event} {es : List Event} {id j : CallId} {c d : Call} {g : Nat}
  {h : List (Link × Event)} {p : Progress} {bytes : Bytes} {r r' : Nat × Progress} {f : Frame}

theorem job_of_receives (hnone : l.receives = false) (hcall : l.calls.get? id = some c) :
    c.job ≠ .receive := by
  intro hjob
  have hmem : (id, c) ∈ l.calls.entries := Assoc.mem_of_find hcall
  have hany : l.receives = true := List.any_eq_true.mpr ⟨_, hmem, by simp [hjob]⟩
  rw [hnone] at hany
  cases hany

theorem GaveUp.snoc (hgave : GaveUp h) (x : Link × Event) : GaveUp (h ++ [x]) := by
  obtain ⟨y, hy, hgives⟩ := hgave
  exact ⟨y, List.mem_append_left _ hy, hgives⟩

theorem gaveUp_snoc {x : Link × Event} (hgives : givesUp x = true) : GaveUp (h ++ [x]) :=
  ⟨x, by simp, hgives⟩

theorem OneReceiver.of_append {x : Link × Event} (hone : OneReceiver (h ++ [x])) :
    OneReceiver h :=
  ⟨fun y hy => hone.1 y (List.mem_append_left _ hy), (List.pairwise_append.mp hone.2).1⟩

/-! ## The one call that receives -/

/-- At most one call receives, and none after one was given up with a frame begun. -/
structure Receiver (h : List (Link × Event)) (l : Link) : Prop where
  suits : AllSuit l
  alone : ∀ i j c d, l.calls.get? i = some c → l.calls.get? j = some d → c.job = .receive →
    d.job = .receive → i = j
  retired : GaveUp h → ∀ id c, l.calls.get? id = some c → c.job ≠ .receive

theorem Call.Suits.takes (hsuits : c.Suits) (hphase : c.phase = .done (.received f)) :
    c.job = .receive := by
  cases hjob : c.job with
  | receive => rfl
  | send bytes =>
      rw [Suits, hjob, hphase] at hsuits
      cases hsuits

/-- Who reads came to receive. -/
theorem Receiver.reads (hrec : Receiver h l) (hreads : l.reads? id = some r) :
    ∃ c, l.calls.get? id = some c ∧ c.job = .receive := by
  obtain ⟨c, seen, hcall, hphase⟩ := reads?_eq_some hreads
  exact ⟨c, hcall, (hrec.suits id c hcall).reads hphase⟩

/-- Who has a frame came to receive. -/
theorem Receiver.has (hrec : Receiver h l) (hframe : l.frame? id = some f) :
    ∃ c, l.calls.get? id = some c ∧ c.job = .receive := by
  obtain ⟨c, hcall, hphase⟩ := frame?_eq_some hframe
  exact ⟨c, hcall, (hrec.suits id c hcall).takes hphase⟩

theorem Receiver.unique (hrec : Receiver h l)
    (hi : ∃ c, l.calls.get? id = some c ∧ c.job = .receive)
    (hj : ∃ c, l.calls.get? j = some c ∧ c.job = .receive) : id = j := by
  obtain ⟨c, hc, hcjob⟩ := hi
  obtain ⟨d, hd, hdjob⟩ := hj
  exact hrec.alone id j c d hc hd hcjob hdjob

/-- While somebody reads nobody has a frame. -/
theorem Receiver.frame?_eq_none (hrec : Receiver h l) (hreads : l.reads? id = some r) (j : CallId) :
    l.frame? j = none := by
  cases hframe : l.frame? j with
  | none => rfl
  | some f =>
      obtain rfl := hrec.unique (hrec.reads hreads) (hrec.has hframe)
      rw [frame?_of_reads? hreads] at hframe
      cases hframe

theorem Receiver.not_gaveUp (hrec : Receiver h l)
    (hcall : ∃ c, l.calls.get? id = some c ∧ c.job = .receive) : ¬ GaveUp h := by
  intro hgave
  obtain ⟨c, hc, hjob⟩ := hcall
  exact hrec.retired hgave id c hc hjob

theorem Receiver.step (hrec : Receiver h l) (hone : OneReceiver (h ++ [(l, e)]))
    (hstep : Step l e l') : Receiver (h ++ [(l, e)]) l' := by
  have hnew : ∀ id, e = .call id .receive → ∀ j c, l.calls.get? j = some c → c.job ≠ .receive := by
    rintro id rfl j c hc
    exact job_of_receives (hone.1 (l, .call id .receive) (by simp) rfl) hc
  constructor
  · exact hrec.suits.step hstep
  · intro i j c' d' hc' hd' hcjob hdjob
    rcases hstep.comes hc' with ⟨job, hi, rfl⟩ | ⟨c, hc, hcsame, -⟩
    · obtain rfl : job = .receive := hcjob
      rcases hstep.comes hd' with ⟨job', hj, rfl⟩ | ⟨d, hd, hdsame, -⟩
      · rw [hi] at hj
        cases hj
        rfl
      · exact absurd (hdsame.symm.trans hdjob) (hnew i hi j d hd)
    · rcases hstep.comes hd' with ⟨job', hj, rfl⟩ | ⟨d, hd, hdsame, -⟩
      · obtain rfl : job' = .receive := hdjob
        exact absurd (hcsame.symm.trans hcjob) (hnew j hj i c hc)
      · exact hrec.alone i j c d hc hd (hcsame.symm.trans hcjob) (hdsame.symm.trans hdjob)
  · rintro ⟨x, hx, hgives⟩ id c' hc' hjob
    rcases List.mem_append.mp hx with hold | hx
    · rcases hstep.comes hc' with ⟨job, rfl, rfl⟩ | ⟨c, hc, hsame, -⟩
      · -- The task does not come back.
        obtain rfl : job = .receive := hjob
        have hlate := (List.pairwise_append.mp hone.2).2.2 x hold (l, .call id .receive) (by simp)
        cases hlate hgives
      · exact hrec.retired ⟨x, hold, hgives⟩ id c hc (hsame.symm.trans hjob)
    · -- The one call that received has just been given up.
      obtain rfl := List.mem_singleton.mp hx
      cases hstep with
      | @drop j d call =>
          by_cases hid : id = j
          · subst hid
            simp at hc'
          · have hc : l.calls.get? id = some c' := by simpa [leave, hid] using hc'
            have hj : ∃ d, l.calls.get? j = some d ∧ d.job = .receive := by
              simp only [givesUp, Bool.or_eq_true] at hgives
              rcases hgives with hreads | hframe
              · cases hr : l.reads? j with
                | none => simp [hr] at hreads
                | some r => exact hrec.reads hr
              · obtain ⟨f, hf⟩ := Option.isSome_iff_exists.mp hframe
                exact hrec.has hf
            exact hid (hrec.unique ⟨c', hc, hjob⟩ hj)
      | _ => cases hgives

/-! ## Where the reading of a connection is -/

/-- Nobody reads on this connection any more. -/
def Left (h : List (Link × Event)) (l : Link) (g : Nat) : Prop :=
  l.shared.abandoned? g = some true ∨
    ((l.closed = true ∨ GaveUp h) ∧ ∀ id c, l.calls.get? id = some c → c.job = .receive →
      c.phase.lane? = none)

/-- How far the next frame of a connection is read: as far as the call that reads there
says, and not at all where no call reads, unless nobody will read there any more. -/
def Place (h : List (Link × Event)) (l : Link) (g : Nat) (p : Progress) : Prop :=
  (∃ id, l.reads? id = some (g, p)) ∨
    ((∀ id q, l.reads? id ≠ some (g, q)) ∧ (p = .start ∨ Left h l g))

theorem Left.step (hleft : Left h l g) (hsound : Sound l) (hrec : Receiver (h ++ [(l, e)]) l')
    (hstep : Step l e l') : Left (h ++ [(l, e)]) l' g := by
  rcases hleft with habandoned | ⟨hend, hout⟩
  · exact .inl (hsound.abandoned_step hstep habandoned)
  · refine .inr ⟨hend.imp hstep.closed fun hgave => hgave.snoc _, ?_⟩
    intro id c' hc' hjob
    by_contra hlane
    obtain ⟨⟨g', seen⟩, hlane⟩ := Option.ne_none_iff_exists'.mp hlane
    have hlooked := Phase.looked_of_seen? (Phase.seen?_of_lane? hlane).1
    rcases hstep.of_looked hc' hlooked with ⟨rfl, -, -⟩ | ⟨-, c, hc, -, -, hbefore⟩
    · -- To see a connection the link has to be open, and the call to be there.
      rcases hend with hclosed | hgave
      · cases hstep with
        | lookSome call phase hopen =>
            rw [hclosed] at hopen
            cases hopen
        | lookNone call phase hopen =>
            rw [hclosed] at hopen
            cases hopen
        | lookClosed =>
            obtain rfl := Assoc.eq_of_get?_set hc'
            cases hlane
      · exact hrec.retired (hgave.snoc _) id c' hc' hjob
    · rcases hstep.comes hc' with ⟨job, -, rfl⟩ | ⟨d, hd, hsame, -⟩
      · cases hlane
      · cases hc.symm.trans hd
        have hnone := hout id c hc (hsame.symm.trans hjob)
        rw [hbefore g' seen hlane] at hnone
        cases hnone

/-- What happens elsewhere does not move the place. -/
theorem Place.elsewhere {h' : List (Link × Event)} (hplace : Place h l g p)
    (hreads : ∀ id q, l'.reads? id = some (g, q) ↔ l.reads? id = some (g, q))
    (hleft : Left h l g → Left h' l' g) : Place h' l' g p := by
  rcases hplace with ⟨id, hid⟩ | ⟨hnone, hstart⟩
  · exact .inl ⟨id, (hreads id p).mpr hid⟩
  · exact .inr ⟨fun id q hq => hnone id q ((hreads id q).mp hq), hstart.imp_right hleft⟩

/-- The reading of a connection is where its inbound bytes say. -/
def Standing (h : List (Link × Event)) (l : Link) (g : Nat) (bytes : Bytes) : Prop :=
  ∃ rs p, framesIn rs = receivedOn h g ∧ Stands (inbound h g) rs p bytes ∧ Place h l g p

/-- What the calls have come to so far. -/
def frames (h : List (Link × Event)) : List Frame := (h.filterMap received?).map (·.2)

/-- The callers have got all frames but one that a call has for its caller. -/
inductive Handed (h : List (Link × Event)) (l : Link) : Prop
  | all (none : ∀ id, l.frame? id = none) (same : frames h = returned h)
  | one {id : CallId} {f : Frame} (some : l.frame? id = some f)
      (same : frames h = returned h ++ [f])
  | stopped (gave : GaveUp h) (part : returned h <+: frames h)

/-- All that has been received so far. -/
structure Follows (h : List (Link × Event)) (l : Link) : Prop where
  receiver : Receiver h l
  standing : ∀ g bytes, l.unread? g = some bytes → Standing h l g bytes
  fresh : ∀ g, l.unread? g = none → inbound h g = [] ∧ receivedOn h g = []
  sorted : (h.filterMap received?).Pairwise fun x y => x.1 ≤ y.1
  range : 1 ≤ l.generation ∧ ∀ x ∈ h.filterMap received?, 1 ≤ x.1 ∧ x.1 ≤ l.generation
  handed : Handed h l

/-! ## Steps -/

/-- What is neither seen on a connection nor moves its reader leaves its reading where it is. -/
theorem Follows.keeps (hfollows : Follows h l) (hsound : Sound l)
    (hrec : Receiver (h ++ [(l, e)]) l') (hstep : Step l e l') (hunread : l.unread? g = some bytes)
    (hin : inbound (h ++ [(l, e)]) g = inbound h g)
    (hout : receivedOn (h ++ [(l, e)]) g = receivedOn h g)
    (hreads : ∀ id q, l'.reads? id = some (g, q) ↔ l.reads? id = some (g, q)) :
    Standing (h ++ [(l, e)]) l' g bytes := by
  obtain ⟨rs, p, hframes, hstands, hplace⟩ := hfollows.standing g bytes hunread
  refine ⟨rs, p, hout ▸ hframes, hin ▸ hstands, hplace.elsewhere hreads ?_⟩
  exact fun hleft => hleft.step hsound hrec hstep

theorem Alters.reads_elsewhere {reads : Option (Nat × Progress)} {frame : Option Frame}
    (halters : Alters l l' id reads frame) (hbefore : ∀ q, l.reads? id ≠ some (g, q))
    (hafter : ∀ q, reads ≠ some (g, q)) (j : CallId) (q : Progress) :
    l'.reads? j = some (g, q) ↔ l.reads? j = some (g, q) := by
  rw [halters.reads]
  split
  · rename_i hj
    subst hj
    exact ⟨fun hq => absurd hq (hafter q), fun hq => absurd hq (hbefore q)⟩
  · exact Iff.rfl

theorem Sound.not_reads (hsound : Sound l) (hnone : l.shared.abandoned? g = none) (id : CallId)
    (q : Progress) : l.reads? id ≠ some (g, q) := by
  intro hreads
  obtain ⟨c, seen, hcall, hphase⟩ := reads?_eq_some hreads
  exact ((hsound.fits id c hcall).onLane g seen (by rw [hphase]; rfl)).1 hnone

/-- The connection that a call reads on has its reading where the call says. -/
theorem Follows.of_reads (hfollows : Follows h l) (hunread : l.unread? g = some bytes)
    (hreads : l.reads? id = some (g, p)) :
    ∃ rs, framesIn rs = receivedOn h g ∧ Stands (inbound h g) rs p bytes := by
  obtain ⟨rs, q, hframes, hstands, hplace⟩ := hfollows.standing g bytes hunread
  rcases hplace with ⟨j, hj⟩ | ⟨hnone, -⟩
  · obtain rfl := hfollows.receiver.unique (hfollows.receiver.reads hreads)
      (hfollows.receiver.reads hj)
    rw [hreads] at hj
    cases hj
    exact ⟨rs, hframes, hstands⟩
  · exact absurd hreads (hnone id p)

/-- When the one call that read has stopped nobody reads. -/
theorem Receiver.nobody (hrec : Receiver h l) (hreads : l.reads? id = some r)
    {frame : Option Frame} (halters : Alters l l' id none frame) (j : CallId) :
    l'.reads? j = none := by
  rw [halters.reads]
  split
  · rfl
  · rename_i hj
    cases hother : l.reads? j with
    | none => rfl
    | some r' => exact absurd (hrec.unique (hrec.reads hother) (hrec.reads hreads)) hj

theorem Follows.standing_step (hfollows : Follows h l) (hsound : Sound l)
    (hrec : Receiver (h ++ [(l, e)]) l') (hstep : Step l e l') {g : Nat} {bytes : Bytes}
    (hunread : l'.unread? g = some bytes) : Standing (h ++ [(l, e)]) l' g bytes := by
  cases hstep.readTurn with
  | quiet reads frame unread unseen =>
      have hin : inbound (h ++ [(l, e)]) g = inbound h g := observedOn_none unseen.gave g h
      have hout : receivedOn (h ++ [(l, e)]) g = receivedOn h g :=
        observedOn_none unseen.received g h
      have hreads : ∀ id q, l'.reads? id = some (g, q) ↔ l.reads? id = some (g, q) :=
        fun id q => by rw [reads]
      rcases unread with hsame | hnew
      · exact hfollows.keeps hsound hrec hstep (hsame g ▸ hunread) hin hout hreads
      · rw [hnew g] at hunread
        split at hunread
        · -- A new connection, of which nothing has been read.
          rename_i hg
          obtain rfl := Option.some.inj hunread
          have hnone := hsound.bound g (by omega)
          have hlane : l.unread? g = none := by
            rw [Link.unread?, Option.map_eq_none_iff]
            exact Option.map_eq_none_iff.mp hnone
          obtain ⟨hsource, hframes⟩ := hfollows.fresh g hlane
          refine ⟨[], .start, (hout.trans hframes).symm, ?_, .inr ⟨?_, .inl rfl⟩⟩
          · rw [hin, hsource]
            exact .start
          · intro id q
            rw [reads]
            exact hsound.not_reads hnone id q
        · exact hfollows.keeps hsound hrec hstep hunread hin hout hreads
  | @begin id g' seen c call job lane live idle alters frame unread unseen =>
      have hin : inbound (h ++ [(l, e)]) g = inbound h g := observedOn_none unseen.gave g h
      have hout : receivedOn (h ++ [(l, e)]) g = receivedOn h g :=
        observedOn_none unseen.received g h
      rw [unread] at hunread
      by_cases hg : g = g'
      · subst hg
        obtain ⟨rs, p, hframes, hstands, hplace⟩ := hfollows.standing g bytes hunread
        -- The connection has not been left, so its reading is at the start of a frame.
        have hstart : p = .start := by
          rcases hplace with ⟨j, hj⟩ | ⟨-, hstart | hleft⟩
          · obtain rfl := hfollows.receiver.unique ⟨c, call, job⟩ (hfollows.receiver.reads hj)
            rw [idle] at hj
            cases hj
          · exact hstart
          · rcases hleft with habandoned | ⟨-, hout⟩
            · rw [live] at habandoned
              cases habandoned
            · rw [hout id c call job] at lane
              cases lane
        subst hstart
        refine ⟨rs, .start, hframes.trans hout.symm, ?_, .inl ⟨id, ?_⟩⟩
        · rw [hin]
          exact hstands
        · rw [alters.reads, if_pos rfl]
      · refine hfollows.keeps hsound hrec hstep hunread hin hout (alters.reads_elsewhere ?_ ?_)
        · simp [idle]
        · simp [Ne.symm hg]
  | @read id g' progress before after next chunk result reads live found stands alters unread gave
      received returned =>
      rw [unread g] at hunread
      by_cases hg : g = g'
      · subst hg
        rw [if_pos rfl] at hunread
        obtain rfl := Option.some.inj hunread
        obtain ⟨rs, hframes, hstands⟩ := hfollows.of_reads found reads
        have hin : inbound (h ++ [(l, e)]) g = inbound h g ++ chunk.toList :=
          observedOn_self gave h
        have hout : receivedOn (h ++ [(l, e)]) g =
            receivedOn h g ++ (result.bind Except.toOption).toList := observedOn_self received h
        refine ⟨rs ++ result.toList, next.getD .start, ?_, hin ▸ stands hstands, ?_⟩
        · rw [framesIn_append, hframes, hout]
          cases result with
          | none => rfl
          | some result => cases result <;> rfl
        · cases next with
          | some q => exact .inl ⟨id, by rw [alters.reads, if_pos rfl]; rfl⟩
          | none =>
              refine .inr ⟨fun j q => ?_, .inl rfl⟩
              rw [hfollows.receiver.nobody reads alters j]
              simp
      · rw [if_neg hg] at hunread
        refine hfollows.keeps hsound hrec hstep hunread (observedOn_other gave hg h)
          (observedOn_other received hg h) (alters.reads_elsewhere ?_ ?_)
        · simp [reads, Ne.symm hg]
        · cases next <;> simp [Ne.symm hg]
  | @leave id g' progress reads why off alters unread unseen =>
      have hin : inbound (h ++ [(l, e)]) g = inbound h g := observedOn_none unseen.gave g h
      have hout : receivedOn (h ++ [(l, e)]) g = receivedOn h g :=
        observedOn_none unseen.received g h
      rw [unread] at hunread
      by_cases hg : g = g'
      · subst hg
        obtain ⟨rs, hframes, hstands⟩ := hfollows.of_reads hunread reads
        refine ⟨rs, progress, hframes.trans hout.symm, ?_, .inr ⟨?_, ?_⟩⟩
        · rw [hin]
          exact hstands
        · intro j q
          rw [hfollows.receiver.nobody reads alters j]
          simp
        · have hnone : ∀ j d, l'.calls.get? j = some d → d.job = .receive →
              d.phase.lane? = none := by
            intro j d hd hjob
            rcases hstep.comes hd with ⟨job, -, rfl⟩ | ⟨d₀, hd₀, hsame, -⟩
            · rfl
            · obtain rfl := hfollows.receiver.unique (hfollows.receiver.reads reads)
                ⟨d₀, hd₀, hsame.symm.trans hjob⟩
              exact off d hd
          rcases why with hstart | habandoned | hclosed | hgives
          · exact .inl hstart
          · exact .inr (.inl (hsound.abandoned_step hstep habandoned))
          · exact .inr (.inr ⟨.inl (hstep.closed hclosed), hnone⟩)
          · exact .inr (.inr ⟨.inr (gaveUp_snoc hgives), hnone⟩)
      · refine hfollows.keeps hsound hrec hstep hunread hin hout (alters.reads_elsewhere ?_ ?_)
        · simp [reads, Ne.symm hg]
        · simp
  | @take id f frame alters unread gave received returned =>
      rw [unread] at hunread
      refine hfollows.keeps hsound hrec hstep hunread (observedOn_none gave g h)
        (observedOn_none received g h) (alters.reads_elsewhere ?_ ?_)
      · intro q hreads
        rw [frame?_of_reads? hreads] at frame
        cases frame
      · simp

/-- Where no connection has been nothing has been read. -/
theorem Follows.fresh_step (hfollows : Follows h l) (hstep : Step l e l')
    (hnone : l'.unread? g = none) :
    inbound (h ++ [(l, e)]) g = [] ∧ receivedOn (h ++ [(l, e)]) g = [] := by
  cases hstep.readTurn with
  | quiet reads frame unread unseen =>
      have hbefore : l.unread? g = none := by
        rcases unread with hsame | hnew
        · rwa [hsame] at hnone
        · rw [hnew g] at hnone
          split at hnone
          · cases hnone
          · exact hnone
      obtain ⟨hin, hout⟩ := hfollows.fresh g hbefore
      exact ⟨(observedOn_none unseen.gave g h).trans hin,
        (observedOn_none unseen.received g h).trans hout⟩
  | begin call job lane live idle alters frame unread unseen
  | leave reads why off alters unread unseen =>
      obtain ⟨hin, hout⟩ := hfollows.fresh g ((unread g).symm.trans hnone)
      exact ⟨(observedOn_none unseen.gave g h).trans hin,
        (observedOn_none unseen.received g h).trans hout⟩
  | take frame alters unread gave received =>
      obtain ⟨hin, hout⟩ := hfollows.fresh g ((unread g).symm.trans hnone)
      exact ⟨(observedOn_none gave g h).trans hin, (observedOn_none received g h).trans hout⟩
  | @read id g' progress before after next chunk result reads live found stands alters unread gave
      received =>
      rw [unread g] at hnone
      split at hnone
      · cases hnone
      · rename_i hg
        obtain ⟨hin, hout⟩ := hfollows.fresh g hnone
        exact ⟨(observedOn_other gave hg h).trans hin, (observedOn_other received hg h).trans hout⟩

theorem frames_snoc (h : List (Link × Event)) (x : Link × Event) :
    frames (h ++ [x]) = frames h ++ ((received? x).map (·.2)).toList := by
  cases hx : received? x <;> simp [frames, hx]

theorem returned_snoc (h : List (Link × Event)) (x : Link × Event) :
    returned (h ++ [x]) = returned h ++ (returned? x).toList := by
  cases hx : returned? x <;> simp [returned, hx]

/-- A step that neither makes nor takes a frame. -/
theorem Handed.keeps {x : Link × Event} (hhanded : Handed h l) (hreceived : received? x = none)
    (hreturned : returned? x = none) (hframe : ∀ id, l'.frame? id = l.frame? id) :
    Handed (h ++ [x]) l' := by
  have hframes : frames (h ++ [x]) = frames h := by simp [frames_snoc, hreceived]
  have hgot : returned (h ++ [x]) = returned h := by simp [returned_snoc, hreturned]
  cases hhanded with
  | all none same =>
      exact .all (fun id => (hframe id).trans (none id)) (by rw [hframes, hgot, same])
  | one some same => exact .one ((hframe _).trans some) (by rw [hframes, hgot, same])
  | stopped gave part => exact .stopped (gave.snoc x) (by rwa [hframes, hgot])

theorem Alters.frame_same {reads : Option (Nat × Progress)} {frame : Option Frame}
    (halters : Alters l l' id reads frame) (hbefore : l.frame? id = frame) (j : CallId) :
    l'.frame? j = l.frame? j := by
  rw [halters.frame]
  split
  · rename_i hj
    rw [hj, hbefore]
  · rfl

/-- While somebody reads the callers have got all frames there are. -/
theorem Follows.returned_of_reads (hfollows : Follows h l) (hreads : l.reads? id = some r) :
    frames h = returned h := by
  cases hfollows.handed with
  | all none same => exact same
  | one some same =>
      rw [hfollows.receiver.frame?_eq_none hreads] at some
      cases some
  | stopped gave part =>
      exact absurd gave (hfollows.receiver.not_gaveUp (hfollows.receiver.reads hreads))

theorem Follows.handed_step (hfollows : Follows h l) (hstep : Step l e l') :
    Handed (h ++ [(l, e)]) l' := by
  have hrec := hfollows.receiver
  cases hstep.readTurn with
  | quiet reads frame unread unseen =>
      exact hfollows.handed.keeps unseen.received unseen.returned frame
  | begin call job lane live idle alters frame unread unseen =>
      exact hfollows.handed.keeps unseen.received unseen.returned (alters.frame_same frame)
  | leave reads why off alters unread unseen =>
      exact hfollows.handed.keeps unseen.received unseen.returned
        (alters.frame_same (frame?_of_reads? reads))
  | @read id g progress before after next chunk result reads live found stands alters unread gave
      received returned =>
      have hsame := hfollows.returned_of_reads reads
      cases hresult : result.bind Except.toOption with
      | none =>
          rw [hresult] at received alters
          exact hfollows.handed.keeps received returned
            (alters.frame_same (frame?_of_reads? reads))
      | some f =>
          rw [hresult] at received alters
          refine Handed.one (f := f) (?_ : l'.frame? id = some f) ?_
          · rw [alters.frame, if_pos rfl]
          · rw [frames_snoc, returned_snoc, received, returned, hsame]
            simp
  | @take id f frame alters unread gave received returned =>
      have hframes : frames (h ++ [(l, e)]) = frames h := by simp [frames_snoc, received]
      cases hfollows.handed with
      | all none same =>
          rw [none] at frame
          cases frame
      | stopped gave part => exact absurd gave (hrec.not_gaveUp (hrec.has frame))
      | @one j f' some same =>
          obtain rfl := hrec.unique (hrec.has frame) (hrec.has some)
          obtain rfl := Option.some.inj (frame.symm.trans some)
          rcases returned with hgot | ⟨hgot, hgives⟩
          · refine .all ?_ ?_
            · intro k
              rw [alters.frame]
              split
              · rfl
              · rename_i hk
                cases hother : l.frame? k with
                | none => rfl
                | some f'' => exact absurd (hrec.unique (hrec.has hother) (hrec.has frame)) hk
            · rw [hframes, same, returned_snoc, hgot]
              rfl
          · refine .stopped (gaveUp_snoc hgives) ?_
            rw [hframes, same, returned_snoc, hgot]
            simp

/-- A frame comes on the newest connection. -/
theorem Sound.generation_of_received (hsound : Sound l) (hstep : Step l e l') {y : Nat × Frame}
    (hy : received? (l, e) = some y) : y.1 = l.generation := by
  cases hstep.readTurn with
  | quiet reads frame unread unseen | begin call job lane live idle alters frame unread unseen
  | leave reads why off alters unread unseen =>
      rw [unseen.received] at hy
      cases hy
  | take frame alters unread gave received =>
      rw [received] at hy
      cases hy
  | read next chunk result reads live found stands alters unread gave received =>
      rw [received] at hy
      obtain ⟨f, -, rfl⟩ := Option.map_eq_some_iff.mp hy
      exact hsound.current _ ((hsound.installed _).mp live)

theorem Follows.step (hfollows : Follows h l) (hsound : Sound l)
    (hone : OneReceiver (h ++ [(l, e)])) (hstep : Step l e l') :
    Follows (h ++ [(l, e)]) l' := by
  have hrec := hfollows.receiver.step hone hstep
  have hnew : ∀ y ∈ (received? (l, e)).toList, y.1 = l.generation := by
    intro y hy
    exact hsound.generation_of_received hstep (Option.mem_toList.mp hy)
  have hreceived : (h ++ [(l, e)]).filterMap received? =
      h.filterMap received? ++ (received? (l, e)).toList := by
    cases hx : received? (l, e) <;> simp [hx]
  refine ⟨hrec, fun _ _ => hfollows.standing_step hsound hrec hstep,
    fun _ => hfollows.fresh_step hstep, ?_, ?_, hfollows.handed_step hstep⟩
  · rw [hreceived, List.pairwise_append]
    refine ⟨hfollows.sorted, ?_, ?_⟩
    · cases received? (l, e) <;> simp
    · intro x hx y hy
      rw [hnew y hy]
      exact (hfollows.range.2 x hx).2
  · refine ⟨Nat.le_trans hfollows.range.1 hstep.generation_le, ?_⟩
    intro x hx
    rw [hreceived] at hx
    rcases List.mem_append.mp hx with hx | hx
    · exact ⟨(hfollows.range.2 x hx).1, Nat.le_trans (hfollows.range.2 x hx).2 hstep.generation_le⟩
    · rw [hnew x hx]
      exact ⟨hfollows.range.1, hstep.generation_le⟩

theorem follows_start (connection : ConnectionName) (canDial : Bool) (pause budget : Nat) :
    Follows [] (start connection canDial pause budget) where
  receiver := by
    refine ⟨?_, ?_, ?_⟩
    · intro id c hc
      cases hc
    · intro i j c d hc
      cases hc
    · intro _ id c hc
      cases hc
  standing := by
    intro g bytes hunread
    have hbytes : bytes = [] := by
      by_cases hg : g = 1 <;> simp [Link.unread?, start, hg] at hunread
      exact hunread
    subst hbytes
    refine ⟨[], .start, rfl, .start, .inr ⟨?_, .inl rfl⟩⟩
    intro id q hq
    cases hq
  fresh := fun _ _ => ⟨rfl, rfl⟩
  sorted := .nil
  range := ⟨Nat.le_refl 1, by simp⟩
  handed := .all (fun _ => rfl) rfl

theorem follows_of_run {connection : ConnectionName} {canDial : Bool} {pause budget : Nat}
    (hrun : (start connection canDial pause budget).run es = some l)
    (hone : OneReceiver (history (start connection canDial pause budget) es)) :
    Follows (history (start connection canDial pause budget) es) l := by
  refine run_induction (P := fun es l =>
    OneReceiver (history (start connection canDial pause budget) es) →
      Follows (history (start connection canDial pause budget) es) l)
    (fun _ => follows_start ..) ?_ hrun hone
  intro es e l l' hrun hbefore hstep hone
  rw [history_snoc hrun] at hone ⊢
  exact (hbefore hone.of_append).step (sound_of_run hrun) hone hstep

/-! ## All frames -/

theorem Follows.returned_prefix (hfollows : Follows h l) : returned h <+: frames h := by
  cases hfollows.handed with
  | all none same => exact same ▸ List.prefix_refl _
  | one some same => exact same ▸ List.prefix_append ..
  | stopped gave part => exact part

/-- The frames that came on a connection are those that its inbound bytes are read as. -/
theorem Follows.receivedOn_eq (hfollows : Follows h l) (g : Nat) :
    ∃ count, ∀ later, receivedOn h g = framesIn (results count (inbound h g ++ later)) := by
  cases hunread : l.unread? g with
  | none => exact ⟨0, fun _ => (hfollows.fresh g hunread).2⟩
  | some bytes =>
      obtain ⟨rs, p, hframes, hstands, -⟩ := hfollows.standing g bytes hunread
      exact ⟨rs.length, fun later => by rw [hstands.results, hframes]⟩

/-- **Received frames follow the connections.** With one task that receives, the frames
its calls return are, one connection after the other in the order of their
generations, an initial part of the frames that came on each; and those are the frames
that repeated reads make of what this connection alone gave, whatever it might have
given later. -/
theorem received_by_connection {connection : ConnectionName} {canDial : Bool}
    {pause budget : Nat} (hrun : (start connection canDial pause budget).run es = some l)
    (hone : OneReceiver (history (start connection canDial pause budget) es)) :
    ∃ part : Nat → List Frame,
      returned (history (start connection canDial pause budget) es) =
        (List.range' 1 l.generation).flatMap part ∧
      ∀ g, part g <+: receivedOn (history (start connection canDial pause budget) es) g ∧
        ∃ count, ∀ later,
          receivedOn (history (start connection canDial pause budget) es) g =
            framesIn (results count
              (inbound (history (start connection canDial pause budget) es) g ++ later)) := by
  have hfollows := follows_of_run hrun hone
  obtain ⟨got, hpart, hgot⟩ := List.prefix_map_iff.mp hfollows.returned_prefix
  have hsorted : got.Pairwise fun x y => x.1 ≤ y.1 := hfollows.sorted.sublist hpart.sublist
  have hrange : ∀ x ∈ got, 1 ≤ x.1 ∧ x.1 < 1 + l.generation := by
    intro x hx
    obtain ⟨hlow, hhigh⟩ := hfollows.range.2 x (hpart.subset hx)
    exact ⟨hlow, by omega⟩
  refine ⟨fun g => got.filterMap (ofGeneration g), ?_, ?_⟩
  · rw [hgot, map_snd_eq_flatMap hsorted hrange]
  · intro g
    exact ⟨hpart.filterMap _, hfollows.receivedOn_eq g⟩

/-- A call is in the middle of a frame when a send on the same connection fails: what it
has read of that frame is lost with the connection, and the frames on either side of it
come from the first connection and from the second. -/
theorem received_by_connection_cut_frame :
    ∃ es l, (start "a" true 0 1).run es = some l ∧
      OneReceiver (history (start "a" true 0 1) es) ∧ l.generation = 2 ∧
      inbound (history (start "a" true 0 1) es) 1 =
        [.bytes [255, 255, 2, 0, 0, 2, 255, 255, 9]] ∧
      ∃ part : Nat → List Frame, part 1 ++ part 2 = [⟨2, [], by decide⟩, ⟨3, [], by decide⟩] ∧
        ∃ count, part 1 <+:
          framesIn (results count [.bytes [255, 255, 2, 0, 0, 2, 255, 255, 9]]) := by
  let es : List Event := [.call 1 .receive, .look 1, .ask 1,
    .filled 1 [255, 255, 2, 0, 0, 2, 255, 255, 9], .parse 1, .collect 1, .call 2 .receive, .look 2,
    .ask 2, .parse 2, .call 3 (.send [1]), .look 3, .ask 3, .broke 3 ⟨.reset, "reset"⟩, .judge 3,
    .enter 3 0, .lose 2, .judge 2, .dial 3 0, .dialled 3 (.ok "b"), .enter 2 0, .look 2, .ask 2,
    .filled 2 [255, 255, 3, 0, 0, 3], .parse 2, .collect 2]
  have hstate : ∃ l, (start "a" true 0 1).run es = some l ∧ l.generation = 2 := ⟨_, rfl, rfl⟩
  obtain ⟨l, hrun, hgeneration⟩ := hstate
  have hone : OneReceiver (history (start "a" true 0 1) es) := by decide
  have hin : inbound (history (start "a" true 0 1) es) 1 =
      [.bytes [255, 255, 2, 0, 0, 2, 255, 255, 9]] := rfl
  have hgot : returned (history (start "a" true 0 1) es) =
      [⟨2, [], by decide⟩, ⟨3, [], by decide⟩] := rfl
  obtain ⟨part, hparts, hpart⟩ := received_by_connection hrun hone
  obtain ⟨hpart, count, hcount⟩ := hpart 1
  refine ⟨es, l, hrun, hone, hgeneration, hin, part, ?_, count, ?_⟩
  · rw [← hgot, hparts, hgeneration]
    simp [List.range']
  · rw [hcount [], List.append_nil, hin] at hpart
    exact hpart

end TelemetryRelay.Link
