import TelemetryRelay.Proofs.Node.Aside

/-!
# What becomes of an acceptor

An acceptor changes only by what is done about it: it attaches a peer, it is closed, one of
its peers is forgotten, or all are.  Of these a peer is attached and the acceptor closed
only as long as it is open.
-/

namespace TelemetryRelay

namespace Node

/-- The loop of the next peer. -/
def newcomer (n : Node) (acceptor : Acceptor) : Loop :=
  ⟨n.fresh + 3, n.fresh + 2, n.peerBridge acceptor, none⟩

/-- The loop of the peer that an acceptor attaches with this move. -/
def attached? (a : AcceptorId) : Node × Move → Option Loop
  | (n, .step id) =>
    match n.actionOf? id, n.acceptors.get? a with
    | some (.accept a'), some acceptor =>
      if a' = a ∧ acceptor.closed = false ∧ acceptor.backlog ≠ [] ∧
          acceptor.peers.length < acceptor.maxPeers then
        some (n.newcomer acceptor)
      else none
    | _, _ => none
  | (_, .outside _) => none

/-- The task that closes an acceptor with this move, which nobody has closed before. -/
def closes? (a : AcceptorId) : Node × Move → Option TaskId
  | (n, .step id) =>
    match n.actionOf? id, n.acceptors.get? a with
    | some (.close a'), some acceptor => if a' = a ∧ acceptor.closed = false then some id else none
    | _, _ => none
  | (_, .outside _) => none

/-- What a move does to an acceptor: who is attached, and which task closes it. -/
inductive Hosted (n : Node) (a : AcceptorId) (acceptor : Acceptor) :
    Move → Acceptor → Option Loop → Option TaskId → Prop
  | same {m : Move} {backlog : List ConnectionName} {loop : Option TaskId} :
      Hosted n a acceptor m { acceptor with backlog, loop } none none
  | attaches {id : TaskId} {c : ConnectionName} {rest : List ConnectionName}
      (acts : n.actionOf? id = some (.accept a)) (opened : acceptor.closed = false)
      (backlog : acceptor.backlog = c :: rest)
      (room : ¬ acceptor.maxPeers ≤ acceptor.peers.length) :
      Hosted n a acceptor (.step id)
        { acceptor with backlog := rest, peers := acceptor.peers ++ [n.fresh + 2] }
        (some (n.newcomer acceptor)) none
  | closes {id : TaskId} {backlog : List ConnectionName}
      (acts : n.actionOf? id = some (.close a)) (opened : acceptor.closed = false) :
      Hosted n a acceptor (.step id) { acceptor with closed := true, backlog } none (some id)
  | forgets {id : TaskId} {b : BridgeId} (acts : n.actionOf? id = some (.forget a b)) :
      Hosted n a acceptor (.step id) { acceptor with peers := acceptor.peers.erase b } none none
  | clears {id : TaskId} (acts : n.actionOf? id = some (.clear a)) :
      Hosted n a acceptor (.step id) { acceptor with peers := [] } none none

variable {n n' : Node} {id : TaskId} {a : AcceptorId} {x : Action} {next : Transition} {m : Move}
  {acceptor : Acceptor}

/-! ## What is done about an acceptor -/

theorem attached?_eq_some {c : ConnectionName} {rest : List ConnectionName}
    (acts : n.actionOf? id = some (.accept a)) (found : n.acceptors.get? a = some acceptor)
    (opened : acceptor.closed = false) (backlog : acceptor.backlog = c :: rest)
    (room : ¬ acceptor.maxPeers ≤ acceptor.peers.length) :
    attached? a (n, .step id) = some (n.newcomer acceptor) := by
  simp [attached?, acts, found, opened, backlog, Nat.lt_of_not_le room]

theorem attached?_eq_none (h : n.actionOf? id ≠ some (.accept a)) :
    attached? a (n, .step id) = none := by
  simp only [attached?]
  split
  · rename_i a' acceptor hacts _
    rw [if_neg]
    rintro ⟨rfl, -⟩
    exact h hacts
  · rfl

theorem closes?_eq_none (h : n.actionOf? id ≠ some (.close a)) :
    closes? a (n, .step id) = none := by
  simp only [closes?]
  split
  · rename_i a' acceptor hacts _
    rw [if_neg]
    rintro ⟨rfl, -⟩
    exact h hacts
  · rfl

/-- Nobody is attached, and nobody closes the acceptor. -/
theorem hosted_same (backlog : List ConnectionName) (loop : Option TaskId)
    (hattached : attached? a (n, m) = none) (hcloses : closes? a (n, m) = none) :
    Hosted n a acceptor m { acceptor with backlog, loop } (attached? a (n, m))
      (closes? a (n, m)) := by
  rw [hattached, hcloses]
  exact .same

/-- The acceptor is left alone. -/
theorem hosted_of_get? (found : n.acceptors.get? a = some acceptor)
    (hsame : n'.acceptors.get? a = n.acceptors.get? a) (hattached : attached? a (n, m) = none)
    (hcloses : closes? a (n, m) = none) : ∃ acceptor', n'.acceptors.get? a = some acceptor' ∧
      Hosted n a acceptor m acceptor' (attached? a (n, m)) (closes? a (n, m)) :=
  ⟨acceptor, hsame.trans found, hosted_same acceptor.backlog acceptor.loop hattached hcloses⟩

theorem Accepts.hosted (h : Accepts n a acceptor n' next) (found : n.acceptors.get? a = some acceptor)
    (acts : n.actionOf? id = some (.accept a)) :
    ∃ acceptor', n'.acceptors.get? a = some acceptor' ∧ Hosted n a acceptor (.step id) acceptor'
      (attached? a (n, .step id)) (closes? a (n, .step id)) := by
  have hcloses : closes? a (n, .step id) = none := closes?_eq_none (by simp [acts])
  cases h with
  | stops closed =>
      have hattached : attached? a (n, .step id) = none := by
        simp [attached?, acts, found, closed]
      have hget : (n.closeSocket a acceptor).acceptors.get? a =
          some { acceptor with backlog := [] } := by
        rw [acceptors_closeSocket, Assoc.get?_set_self]
      exact ⟨_, hget, hosted_same _ acceptor.loop hattached hcloses⟩
  | turnsAway opened backlog full =>
      have hattached : attached? a (n, .step id) = none := by
        simp [attached?, acts, found, Nat.not_lt_of_le full]
      exact ⟨_, Assoc.get?_set_self .., hosted_same _ acceptor.loop hattached hcloses⟩
  | attaches opened backlog room =>
      rw [hcloses, attached?_eq_some acts found opened backlog room]
      refine ⟨_, ?_, .attaches acts opened backlog room⟩
      rw [acceptors_attach room, Assoc.get?_set_self]

/-- What is done about another acceptor. -/
theorem act_apart (h : n.act id x = some (n', next)) (hother : x.acceptor? ≠ some a) :
    n'.acceptors.get? a = n.acceptors.get? a := by
  cases hx : x.acceptor? with
  | none => rw [(act_aside h hx).acceptors]
  | some a' =>
      have hne : a ≠ a' := fun heq => hother (by rw [hx, heq])
      cases Acts.of_act h with
      | proceeds => rfl
      | accepts found accepts =>
          cases hx
          cases accepts with
          | stops => rw [acceptors_closeSocket, Assoc.get?_set_of_ne hne]
          | turnsAway => exact Assoc.get?_set_of_ne hne
          | attaches _ _ room => rw [acceptors_attach room, Assoc.get?_set_of_ne hne]
      | forgets | closesLoop | clears =>
          cases hx
          exact Assoc.get?_set_of_ne hne
      | closesSocket =>
          cases hx
          rw [acceptors_closeSocket, Assoc.get?_set_of_ne hne]
      | _ => cases hx

theorem act_hosted (found : n.acceptors.get? a = some acceptor) (acts : n.actionOf? id = some x)
    (h : n.act id x = some (n', next)) : ∃ acceptor', n'.acceptors.get? a = some acceptor' ∧
      Hosted n a acceptor (.step id) acceptor' (attached? a (n, .step id))
        (closes? a (n, .step id)) := by
  by_cases hx : x.acceptor? = some a
  · have hattached : x ≠ .accept a → attached? a (n, .step id) = none := fun hne =>
      attached?_eq_none (by simp [acts, hne])
    have hcloses : x ≠ .close a → closes? a (n, .step id) = none := fun hne =>
      closes?_eq_none (by simp [acts, hne])
    cases Acts.of_act h with
    | proceeds proceeds =>
        cases proceeds with
        | isClosed found' closed =>
            cases hx
            cases found.symm.trans found'
            exact hosted_of_get? found rfl (hattached (by simp))
              (by simp [closes?, acts, found, closed])
        | dismisses => exact hosted_of_get? found rfl (hattached (by simp)) (hcloses (by simp))
        | forgetsNothing unknown | clearsNothing unknown =>
            cases hx
            cases found.symm.trans unknown
        | _ => cases hx
    | accepts found' accepts =>
        cases hx
        cases found.symm.trans found'
        exact accepts.hosted found acts
    | closesLoop found' opened =>
        cases hx
        cases found.symm.trans found'
        have hid : closes? a (n, .step id) = some id := by simp [closes?, acts, found, opened]
        rw [hattached (by simp), hid]
        exact ⟨_, Assoc.get?_set_self .., .closes acts opened⟩
    | closesSocket found' opened =>
        cases hx
        cases found.symm.trans found'
        have hid : closes? a (n, .step id) = some id := by simp [closes?, acts, found, opened]
        rw [hattached (by simp), hid]
        exact ⟨_, by rw [acceptors_closeSocket, Assoc.get?_set_self], .closes acts opened⟩
    | forgets found' =>
        cases hx
        cases found.symm.trans found'
        rw [hattached (by simp), hcloses (by simp)]
        exact ⟨_, Assoc.get?_set_self .., .forgets acts⟩
    | clears found' =>
        cases hx
        cases found.symm.trans found'
        rw [hattached (by simp), hcloses (by simp)]
        exact ⟨_, Assoc.get?_set_self .., .clears acts⟩
    | _ => cases hx
  · refine hosted_of_get? found (act_apart h hx) (attached?_eq_none ?_) (closes?_eq_none ?_)
    all_goals
      rw [acts]
      rintro heq
      cases heq
      exact hx rfl

/-! ## Moves -/

/-- From outside peers come to the socket of an acceptor, and it is started. -/
theorem Occurs.hosted {o : Occurrence} (h : Occurs n o n')
    (found : n.acceptors.get? a = some acceptor) :
    ∃ backlog loop, n'.acceptors.get? a = some { acceptor with backlog, loop } := by
  have hsame (h : n'.acceptors = n.acceptors) :
      ∃ backlog loop, n'.acceptors.get? a = some { acceptor with backlog, loop } :=
    ⟨acceptor.backlog, acceptor.loop, by rw [h, found]⟩
  cases h with
  | delivers => exact hsame (aside_deposit ..).acceptors
  | subscribes => exact hsame (by rw [subscribe_eq]; rfl)
  | unsubscribes => exact hsame (by rw [unsubscribe_eq]; rfl)
  | @dialsIn a' c _ found' =>
      by_cases ha : a = a'
      · subst ha
        cases found.symm.trans found'
        exact ⟨acceptor.backlog ++ [c], acceptor.loop, Assoc.get?_set_self ..⟩
      · exact ⟨_, _, (Assoc.get?_set_of_ne ha).trans found⟩
  | @accepts a' _ found' =>
      by_cases ha : a = a'
      · subst ha
        cases found.symm.trans found'
        exact ⟨acceptor.backlog, some n.fresh, Assoc.get?_set_self ..⟩
      · exact ⟨_, _, (Assoc.get?_set_of_ne ha).trans found⟩
  | _ => exact hsame rfl

/-- **An acceptor changes by what is done about it, and by nothing else.** -/
theorem host_move (h : n.move m = some n') (found : n.acceptors.get? a = some acceptor) :
    ∃ acceptor', n'.acceptors.get? a = some acceptor' ∧
      Hosted n a acceptor m acceptor' (attached? a (n, m)) (closes? a (n, m)) := by
  cases m with
  | outside o =>
      cases h
      obtain ⟨backlog, loop, hget⟩ := (Occurs.of_occur n o).hosted found
      exact ⟨_, hget, .same⟩
  | step id =>
      have hidle : n.actionOf? id = none → n'.acceptors = n.acceptors → ∃ acceptor',
          n'.acceptors.get? a = some acceptor' ∧ Hosted n a acceptor (.step id) acceptor'
            (attached? a (n, .step id)) (closes? a (n, .step id)) :=
        fun hnone hsame => hosted_of_get? found (by rw [hsame])
          (attached?_eq_none (by simp [hnone])) (closes?_eq_none (by simp [hnone]))
      rcases Step.of_step h with ⟨hfound, houtbox, hhalts⟩ | ⟨hfound, hgoesOn, hacting, hacts⟩ |
        ⟨hfound, -, hreplying, -⟩ | ⟨hfound, -, hreplying, -, hresumes⟩
      · exact hidle (actionOf?_of_halts hfound houtbox hhalts)
          (Halts.of_haltSender hhalts).aside.acceptors
      · obtain ⟨acceptor', hget, hosted⟩ :=
          act_hosted found (actionOf?_of_acting hfound hgoesOn hacting) hacts
        exact ⟨acceptor', hget, hosted⟩
      · exact hidle (actionOf?_of_replying hfound hreplying) (aside_finish ..).acceptors
      · exact hidle (actionOf?_of_replying hfound hreplying)
          (Resumes.of_resume hresumes).aside.acceptors

/-- An acceptor that is closed and has no peers stays so, whatever happens. -/
theorem vacated_move (h : n.move m = some n') (found : n.acceptors.get? a = some acceptor)
    (closed : acceptor.closed = true) (vacant : acceptor.peers = []) :
    attached? a (n, m) = none ∧ ∃ acceptor', n'.acceptors.get? a = some acceptor' ∧
      acceptor'.closed = true ∧ acceptor'.peers = [] := by
  obtain ⟨acceptor', found', hosted⟩ := host_move h found
  generalize attached? a (n, m) = newcomer at hosted
  generalize closes? a (n, m) = closer at hosted
  cases hosted with
  | same => exact ⟨rfl, _, found', closed, vacant⟩
  | attaches acts opened | closes acts opened => cases closed.symm.trans opened
  | forgets acts => exact ⟨rfl, _, found', closed, by simp [vacant]⟩
  | clears acts => exact ⟨rfl, _, found', closed, rfl⟩

end Node

end TelemetryRelay
