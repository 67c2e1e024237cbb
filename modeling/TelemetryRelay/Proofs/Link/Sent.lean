import Mathlib.Data.List.DropRight
import TelemetryRelay.Proofs.Link.Writing

/-!
# Frames never interleave

A call that sends tries one connection after the other.  It tries again only when the
connection it failed on is no longer installed, so each try is on a connection of a
later generation than the one before.  On each connection its bytes stand in one block
between those of other calls, and when it reports success the block on the last
connection is all it came to send.
-/

namespace TelemetryRelay.Link

open Wire

/-! ## The tries of a call -/

/-- The call comes in. -/
def Event.comes (id : CallId) : Event → Bool
  | .call j _ => j == id
  | _ => false

/-- The connection that a call sees and is going to try. -/
def target? (id : CallId) (x : Link × Event) : Option Nat :=
  match x.2 with
  | .look j => if j = id ∧ x.1.closed = false then x.1.slot else none
  | _ => none

/-- The connections that a call has tried since it came in. -/
def targets (id : CallId) (h : List (Link × Event)) : List Nat :=
  (h.rtakeWhile fun x => !x.2.comes id).filterMap (target? id)

/-- All bytes of a call were taken in one stretch by the last connection it tried, and
those it tried before are of lower generations. -/
def SentWhole (h : List (Link × Event)) (id : CallId) (bytes : Bytes) : Prop :=
  ∃ g before l after settled lower, h = before ++ (l, .flushed id) :: after ∧
    (∀ x ∈ after, x.2.comes id = false) ∧
    Written before g (settled ++ [⟨id, bytes, bytes, false⟩]) ∧
    targets id h = lower ++ [g] ∧ ∀ g' ∈ lower, g' < g

variable {l l' : Link} {e : Event} {es : List Event} {id : CallId} {c c' : Call} {g seen : Nat}
  {h : List (Link × Event)} {bytes : Bytes}

theorem targets_snoc (id : CallId) (h : List (Link × Event)) (x : Link × Event) :
    targets id (h ++ [x]) =
      if x.2.comes id then [] else targets id h ++ (target? id x).toList := by
  cases hcomes : x.2.comes id with
  | true =>
      rw [targets, List.rtakeWhile_concat_neg _ _ _ (by simp [hcomes])]
      rfl
  | false =>
      rw [targets, List.rtakeWhile_concat_pos _ _ _ (by simp [hcomes]), targets]
      cases hx : target? id x <;> simp [hx]

theorem comes_of_ne (hid : e.call? ≠ some id) : e.comes id = false := by
  cases e with
  | call j =>
      simp only [Event.comes, beq_eq_false_iff_ne]
      rintro rfl
      exact hid rfl
  | _ => rfl

theorem targets_other (hid : e.call? ≠ some id) :
    targets id (h ++ [(l, e)]) = targets id h := by
  have hnone : target? id (l, e) = none := by
    cases e with
    | look j =>
        refine if_neg ?_
        rintro ⟨rfl, -⟩
        exact hid rfl
    | _ => rfl
  simp [targets_snoc, comes_of_ne hid, hnone]

/-- An event of a call that neither comes in nor looks for a connection. -/
theorem targets_own (hcomes : e.comes id = false) (hnone : target? id (l, e) = none) :
    targets id (h ++ [(l, e)]) = targets id h := by
  simp [targets_snoc, hcomes, hnone]

theorem SentWhole.snoc (hsent : SentWhole h id bytes) (hid : e.call? ≠ some id) :
    SentWhole (h ++ [(l, e)]) id bytes := by
  obtain ⟨g, before, l₁, after, settled, lower, rfl, hafter, hwritten, htargets, hlower⟩ := hsent
  refine ⟨g, before, l₁, after ++ [(l, e)], settled, lower, by simp, ?_, hwritten, ?_, hlower⟩
  · intro x hx
    rcases List.mem_append.mp hx with hx | hx
    · exact hafter x hx
    · obtain rfl := List.mem_singleton.mp hx
      exact comes_of_ne hid
  · rw [targets_other hid, htargets]

/-- A connection is dropped in the epoch it was installed in, and the next one comes when
there is none. -/
theorem Sound.slot_step (hsound : Sound l) (hstep : Step l e l') :
    (l'.epoch = l.epoch ∧ (l'.slot = l.slot ∨ l'.slot = none)) ∨
      (l.slot = none ∧ (l'.slot = none ∨ l'.slot = some (l.generation + 1))) := by
  by_cases hdialled : ∃ id result, e = .dialled id result
  · obtain ⟨id, result, rfl⟩ := hdialled
    have hnone := hsound.slot_of_dialled hstep
    right
    rcases hstep.shared_of_dialled with hshared | hshared
    · exact ⟨hnone, .inl ((congrArg Shared.slot hshared).trans hnone)⟩
    · exact ⟨hnone, .inr (congrArg Shared.slot hshared)⟩
  · left
    by_cases hdrops : l.Drops e
    · have hshared := hstep.shared_of_drops hdrops
      exact ⟨(congrArg Shared.epoch hshared).trans l.epoch_abandon,
        .inr ((congrArg Shared.slot hshared).trans l.slot_abandon)⟩
    · have hshared := hstep.shared_eq hdrops fun id result he => hdialled ⟨id, result, he⟩
      exact ⟨congrArg Shared.epoch hshared, .inl (congrArg Shared.slot hshared)⟩

/-- None of these connections is installed any more. -/
def Gone (l : Link) (gs : List Nat) : Prop := ∀ g ∈ gs, g ≤ l.generation ∧ l.slot ≠ some g

theorem Gone.step {gs : List Nat} (hgone : Gone l gs) (hsound : Sound l) (hstep : Step l e l') :
    Gone l' gs := by
  intro g hg
  obtain ⟨hle, hne⟩ := hgone g hg
  refine ⟨Nat.le_trans hle hstep.generation_le, ?_⟩
  rcases hsound.slot_step hstep with ⟨-, hslot | hslot⟩ | ⟨-, hslot | hslot⟩
  · rwa [hslot]
  · simp [hslot]
  · simp [hslot]
  · rw [hslot]
    intro heq
    have hnew := Option.some.inj heq
    omega

/-- What the connections that a call has tried have to do with where it stands: it is on the
last of them, or it failed there in an epoch that may be over, or all of them are gone. -/
def Phase.Pursuit (l : Link) (tried : List Nat) (sent : Prop) : Phase → Prop
  | .entering g _ | .working g _ _ => ∃ lower, tried = lower ++ [g] ∧ ∀ g' ∈ lower, g' < g
  | .failed seen _ | .waiting seen => seen = l.epoch ∨ Gone l tried
  | .ready | .pausing _ | .dialling => Gone l tried
  | .done .sent => sent
  | .done _ => True

/-- What a call has tried so far. -/
structure Pursued (h : List (Link × Event)) (l : Link) (id : CallId) (c : Call) : Prop where
  known : ∀ g ∈ targets id h, g ≤ l.generation
  pursuit : c.phase.Pursuit l (targets id h)
    (∃ bytes, c.job = .send bytes ∧ SentWhole h id bytes)

theorem Gone.of_none {gs : List Nat} (hknown : ∀ g ∈ gs, g ≤ l.generation)
    (hslot : l.slot = none) : Gone l gs :=
  fun g hg => ⟨hknown g hg, by simp [hslot]⟩

/-- A failure belongs to an epoch that goes on, or its connection is gone. -/
theorem Gone.or_epoch {gs : List Nat} (hgone : seen = l.epoch ∨ Gone l gs)
    (hknown : ∀ g ∈ gs, g ≤ l.generation) (hsound : Sound l) (hstep : Step l e l') :
    seen = l'.epoch ∨ Gone l' gs := by
  rcases hgone with hnow | hgone
  · rcases hsound.slot_step hstep with ⟨hepoch, -⟩ | ⟨hnone, -⟩
    · exact .inl (hnow.trans hepoch.symm)
    · exact .inr ((Gone.of_none hknown hnone).step hsound hstep)
  · exact .inr (hgone.step hsound hstep)

/-- A call that stays where it is. -/
theorem Phase.Pursuit.step {p : Phase} {tried : List Nat} {sent sent' : Prop}
    (hpursuit : p.Pursuit l tried sent) (hknown : ∀ g ∈ tried, g ≤ l.generation)
    (hsound : Sound l) (hstep : Step l e l') (hsent : sent → sent') :
    p.Pursuit l' tried sent' := by
  cases p with
  | entering | working => exact hpursuit
  | failed | waiting => exact Gone.or_epoch hpursuit hknown hsound hstep
  | ready | pausing | dialling => exact Gone.step hpursuit hsound hstep
  | done outcome =>
      cases outcome with
      | sent => exact hsent hpursuit
      | received | failed => trivial

theorem Pursued.known_step (hpursued : Pursued h l id c) (hstep : Step l e l') :
    ∀ g ∈ targets id h, g ≤ l'.generation :=
  fun g hg => Nat.le_trans (hpursued.known g hg) hstep.generation_le

/-- What others do. -/
theorem Pursued.beside (hpursued : Pursued h l id c) (hsound : Sound l) (hstep : Step l e l')
    (hid : e.call? ≠ some id) : Pursued (h ++ [(l, e)]) l' id c := by
  have htargets : targets id (h ++ [(l, e)]) = targets id h := targets_other hid
  refine ⟨htargets ▸ hpursued.known_step hstep, ?_⟩
  rw [htargets]
  refine hpursued.pursuit.step hpursued.known hsound hstep ?_
  rintro ⟨bytes, hjob, hsent⟩
  exact ⟨bytes, hjob, hsent.snoc hid⟩

/-- When the connection a call is on is not installed any more, nor is any it tried before. -/
theorem Pursued.gone (hpursued : Pursued h l id c) (hsound : Sound l)
    (hlane : c.phase.lane? = some (g, seen)) (hslot : l.slot ≠ some g) :
    Gone l (targets id h) := by
  obtain ⟨lower, htargets, hlower⟩ :
      ∃ lower, targets id h = lower ++ [g] ∧ ∀ g' ∈ lower, g' < g := by
    have hpursuit := hpursued.pursuit
    unfold Phase.lane? at hlane
    split at hlane <;> rename_i hphase <;> cases hlane <;> rwa [hphase] at hpursuit
  intro g' hg'
  refine ⟨hpursued.known g' hg', ?_⟩
  intro hinstalled
  have hnewest := hsound.current g' hinstalled
  have hg : g ≤ l.generation := hpursued.known g (by simp [htargets])
  rw [htargets] at hg'
  rcases List.mem_append.mp hg' with hg' | hg'
  · have hlt := hlower g' hg'
    omega
  · obtain rfl := List.mem_singleton.mp hg'
    exact hslot hinstalled

/-- A call goes on and sees no other connection than before. -/
theorem Pursued.goesOn (hpursued : Pursued h l id c) (hstep : Step l e l')
    (hcomes : e.comes id = false) (htarget : target? id (l, e) = none)
    (hpursuit : c'.phase.Pursuit l' (targets id h)
      (∃ bytes, c'.job = .send bytes ∧ SentWhole (h ++ [(l, e)]) id bytes)) :
    Pursued (h ++ [(l, e)]) l' id c' := by
  have htargets : targets id (h ++ [(l, e)]) = targets id h := targets_own hcomes htarget
  exact ⟨htargets ▸ hpursued.known_step hstep, by rwa [htargets]⟩

/-- A call has written all it came to send: its block is the last one. -/
theorem Pursued.sentWhole (hpursued : Pursued h l id c) (haccounted : Accounted h l g)
    {lane : Lane} (holds : Holds l id c g seen (.writing []) lane) (hjob : c.job = .send bytes) :
    SentWhole (h ++ [(l, .flushed id)]) id bytes := by
  obtain ⟨blocks, hwritten, hstage⟩ := haccounted
  obtain ⟨behind, hwriters⟩ := List.head?_eq_some_iff.mp holds.head
  obtain ⟨⟨settled, bytes', taken, rest, rfl, hsends, hwrites, hwhole⟩, -⟩ :=
    hstage id behind hwriters
  obtain rfl : rest = [] := by simpa [holds.writes?, eq_comm] using hwrites
  obtain rfl : bytes = bytes' := by
    rw [sends?_of_get? holds.call, hjob] at hsends
    exact Option.some.inj hsends
  rw [List.append_nil] at hwhole
  subst hwhole
  have hpursuit := hpursued.pursuit
  rw [holds.phase] at hpursuit
  obtain ⟨lower, htargets, hlower⟩ := hpursuit
  refine ⟨g, h, l, [], settled, lower, rfl, by simp, hwritten, ?_, hlower⟩
  rw [targets_own rfl rfl, htargets]

/-- The call sees the installed connection: all it tried before are gone, so it came later. -/
theorem Pursued.look (hpursued : Pursued h l id c) (hsound : Sound l) (hphase : c.phase = .ready)
    (hopen : l.closed = false) (hslot : l.slot = some g) :
    targets id (h ++ [(l, .look id)]) = targets id h ++ [g] ∧ ∀ g' ∈ targets id h, g' < g := by
  refine ⟨by simp [targets_snoc, Event.comes, target?, hopen, hslot], ?_⟩
  have hpursuit := hpursued.pursuit
  rw [hphase] at hpursuit
  intro g' hg'
  obtain ⟨hle, hne⟩ := hpursuit g' hg'
  have hg := hsound.current g hslot
  have hdiffers : g' ≠ g := by
    rintro rfl
    exact hne hslot
  omega

theorem Pursued.own (hpursued : ∀ c, l.calls.get? id = some c → Pursued h l id c)
    (hsound : Sound l) (hsuits : AllSuit l) (haccounted : ∀ g, Accounted h l g)
    (hstep : Step l e l') (hid : e.call? = some id) (hcall : l'.calls.get? id = some c') :
    Pursued (h ++ [(l, e)]) l' id c' := by
  have hstep' := hstep
  cases hstep with
  | close | detach => cases hid
  | collect | drop =>
      cases hid
      simp at hcall
  | @call id job fresh =>
      cases hid
      obtain rfl := Assoc.eq_of_get?_set hcall
      have hnone : targets id (h ++ [(l, .call id job)]) = [] := by
        simp [targets_snoc, Event.comes]
      refine ⟨by simp [hnone], ?_⟩
      intro g hg
      simp [hnone] at hg
  | cancel call | judgeClosed call | judgeStuck call | judgeSpent call =>
      cases hid
      obtain rfl := Assoc.eq_of_get?_set hcall
      exact (hpursued _ call).goesOn hstep' rfl rfl trivial
  | lookClosed call phase closed =>
      cases hid
      obtain rfl := Assoc.eq_of_get?_set hcall
      exact (hpursued _ call).goesOn hstep' rfl (by simp [target?, closed]) trivial
  | lookNone call phase closed slot =>
      cases hid
      obtain rfl := Assoc.eq_of_get?_set hcall
      exact (hpursued _ call).goesOn hstep' rfl (by simp [target?, slot]) (.inl rfl)
  | @lookSome id c g call phase closed slot =>
      cases hid
      obtain rfl := Assoc.eq_of_get?_set hcall
      obtain ⟨htargets, hlower⟩ := (hpursued _ call).look hsound phase closed slot
      refine ⟨?_, _, htargets, hlower⟩
      intro g' hg'
      rw [htargets] at hg'
      rcases List.mem_append.mp hg' with hg' | hg'
      · exact (hpursued _ call).known g' hg'
      · obtain rfl := List.mem_singleton.mp hg'
        exact Nat.le_of_eq (hsound.current g' slot)
  | ask call phase =>
      cases hid
      obtain rfl := Assoc.eq_of_get?_set hcall
      have hpursuit := (hpursued _ call).pursuit
      rw [phase] at hpursuit
      exact (hpursued _ call).goesOn hstep' rfl rfl hpursuit
  | wrote holds | parseMore holds =>
      cases hid
      obtain rfl := Assoc.eq_of_get?_set hcall
      have hpursuit := (hpursued _ holds.call).pursuit
      rw [holds.phase] at hpursuit
      exact (hpursued _ holds.call).goesOn hstep' rfl rfl hpursuit
  | filled holds =>
      cases hid
      rw [calls_onLane, holds.call] at hcall
      cases hcall
      have hpursuit := (hpursued _ holds.call).pursuit
      refine (hpursued _ holds.call).goesOn hstep' rfl rfl ?_
      rw [holds.phase] at hpursuit ⊢
      exact hpursuit
  | parseFrame holds =>
      cases hid
      obtain rfl := Assoc.eq_of_get?_set hcall
      exact (hpursued _ holds.call).goesOn hstep' rfl rfl trivial
  | @flushed id c g seen lane holds =>
      cases hid
      obtain rfl := Assoc.eq_of_get?_set hcall
      obtain ⟨bytes, hjob⟩ := (hsuits id c holds.call).writes holds.phase
      refine (hpursued _ holds.call).goesOn hstep' rfl rfl ⟨bytes, hjob, ?_⟩
      exact (hpursued _ holds.call).sentWhole (haccounted g) holds hjob
  | @lose id c g seen lane call phase found abandoned =>
      cases hid
      obtain rfl := Assoc.eq_of_get?_set hcall
      have hslot : l.slot ≠ some g :=
        hsound.slot_ne_of_abandoned (by simp [shared, found, abandoned])
      have hgone := (hpursued _ call).gone hsound phase hslot
      exact (hpursued _ call).goesOn hstep' rfl rfl (.inr (hgone.step hsound hstep'))
  | parseError holds | ended holds | broke holds =>
      cases hid
      obtain rfl := Assoc.eq_of_get?_set hcall
      exact (hpursued _ holds.call).goesOn hstep' rfl rfl (.inl (hsound.seen_of_holds holds))
  | judgeRetry call phase =>
      cases hid
      obtain rfl := Assoc.eq_of_get?_set hcall
      have hpursuit := (hpursued _ call).pursuit
      rw [phase] at hpursuit
      exact (hpursued _ call).goesOn hstep' rfl rfl hpursuit
  | enterLate call phase turn closed late =>
      cases hid
      obtain rfl := Assoc.eq_of_get?_set hcall
      have hpursuit := (hpursued _ call).pursuit
      rw [phase] at hpursuit
      refine (hpursued _ call).goesOn hstep' rfl rfl ?_
      rcases hpursuit with hnow | hgone
      · exact absurd hnow.symm late
      · exact hgone
  | enterFirst call phase =>
      cases hid
      obtain rfl := Assoc.eq_of_get?_set hcall
      exact (hpursued _ call).goesOn hstep' rfl rfl
        (Gone.of_none ((hpursued _ call).known_step hstep') l.slot_abandon)
  | dial call phase | dialledError call phase | dialledClosed call phase
  | dialledOpen call phase =>
      cases hid
      obtain rfl := Assoc.eq_of_get?_set hcall
      have hpursuit := (hpursued _ call).pursuit
      rw [phase] at hpursuit
      exact (hpursued _ call).goesOn hstep' rfl rfl (Gone.step hpursuit hsound hstep')

theorem pursued_of_run {connection : ConnectionName} {canDial : Bool} {pause budget : Nat}
    (hrun : (start connection canDial pause budget).run es = some l) (id : CallId) :
    ∀ c, l.calls.get? id = some c →
      Pursued (history (start connection canDial pause budget) es) l id c := by
  refine run_induction (P := fun es l => ∀ c, l.calls.get? id = some c →
    Pursued (history (start connection canDial pause budget) es) l id c) ?_ ?_ hrun
  · intro c hc
    cases hc
  · intro es e l l' hrun hbefore hstep c' hc'
    rw [history_snoc hrun]
    have hsound := sound_of_run hrun
    by_cases hid : e.call? = some id
    · exact .own hbefore hsound (allSuit_of_run hrun) (accounted_of_run hrun) hstep hid hc'
    · rw [hstep.calls_of_ne hid] at hc'
      exact (hbefore c' hc').beside hsound hstep hid

/-! ## All bytes -/

/-- **Frames never interleave.** Whatever calls there are and however they come to write,
what a connection takes is one block for each call that got its writer, in that order:
a beginning of what the call came to send, and all of it where the call has sent it.  A
call that reports success has had all its bytes taken in one block by the last
connection it tried, which came later than those it tried before. -/
theorem frames_never_interleave {connection : ConnectionName} {canDial : Bool}
    {pause budget : Nat} (hrun : (start connection canDial pause budget).run es = some l) :
    (∀ g, ∃ blocks, Written (history (start connection canDial pause budget) es) g blocks) ∧
    ∀ id c bytes, l.calls.get? id = some c → c.job = .send bytes → c.phase = .done .sent →
      SentWhole (history (start connection canDial pause budget) es) id bytes := by
  constructor
  · intro g
    obtain ⟨blocks, hwritten, -⟩ := accounted_of_run hrun g
    exact ⟨blocks, hwritten⟩
  · intro id c bytes hcall hjob hphase
    have hpursuit := (pursued_of_run hrun id c hcall).pursuit
    rw [hphase] at hpursuit
    obtain ⟨bytes', hjob', hsent⟩ := hpursuit
    rw [hjob] at hjob'
    cases hjob'
    exact hsent

/-- The first connection fails in the middle of one frame and is dropped in the middle of
another; both calls begin anew on the second. -/
theorem frames_never_interleave_two_senders :
    ∃ es l, (start "a" true 0 1).run es = some l ∧
      acceptedOn (history (start "a" true 0 1) es) 1 = [1, 2, 4] ∧
      acceptedOn (history (start "a" true 0 1) es) 2 = [1, 2, 3, 4, 5] ∧
      turns (history (start "a" true 0 1) es) 1 = [(1, [1, 2, 3]), (2, [4, 5])] ∧
      targets 2 (history (start "a" true 0 1) es) = [1, 2] ∧
      (∃ blocks, Written (history (start "a" true 0 1) es) 1 blocks) ∧
      SentWhole (history (start "a" true 0 1) es) 2 [4, 5] := by
  let es : List Event := [.call 1 (.send [1, 2, 3]), .look 1, .ask 1, .call 2 (.send [4, 5]),
    .look 2, .ask 2, .wrote 1 2, .broke 1 ⟨.reset, "reset"⟩, .wrote 2 1, .judge 1, .enter 1 0,
    .lose 2, .judge 2, .dial 1 0, .dialled 1 (.ok "b"), .enter 2 0, .look 1, .ask 1, .look 2,
    .ask 2, .wrote 1 3, .flushed 1, .wrote 2 1, .wrote 2 1, .flushed 2]
  have hstate : ∃ l c, (start "a" true 0 1).run es = some l ∧ l.calls.get? 2 = some c ∧
      c.job = .send [4, 5] ∧ c.phase = .done .sent := ⟨_, _, rfl, rfl, rfl, rfl⟩
  obtain ⟨l, c, hrun, hcall, hjob, hphase⟩ := hstate
  obtain ⟨hblocks, hwhole⟩ := frames_never_interleave hrun
  have hfirst : acceptedOn (history (start "a" true 0 1) es) 1 = [1, 2, 4] := by decide
  have hsecond : acceptedOn (history (start "a" true 0 1) es) 2 = [1, 2, 3, 4, 5] := by decide
  have hturns : turns (history (start "a" true 0 1) es) 1 = [(1, [1, 2, 3]), (2, [4, 5])] := by
    decide
  have htargets : targets 2 (history (start "a" true 0 1) es) = [1, 2] := by decide
  exact ⟨es, l, hrun, hfirst, hsecond, hturns, htargets, hblocks 1,
    hwhole 2 c [4, 5] hcall hjob hphase⟩

end TelemetryRelay.Link
