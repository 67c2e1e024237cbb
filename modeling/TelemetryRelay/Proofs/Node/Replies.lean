import TelemetryRelay.Proofs.Node.Frames

/-!
# What an action comes to

To publish a message is to hand it to one listener after the other; a listener may be
a bridge, which posts the message, and to post a message is to send a frame.  Each
of these ends with a reply of its own kind, whatever happens in between: who waits
for it takes up replies of that kind, so a publish that comes back comes back with
the result of a publish.
-/

namespace TelemetryRelay

open Wire

/-- What a reply tells about. -/
inductive Topic where
  | sent
  | posted
  | published
  | taken
  deriving DecidableEq, Repr

def Reply.topic? : Reply → Option Topic
  | .sent _ => some .sent
  | .posted _ => some .posted
  | .published _ => some .published
  | .taken _ => some .taken
  | _ => none

/-- What an action replies about, if it has to do with publishing; a call on a link may
be one that sends. -/
def Action.topic? : Action → Option Topic
  | .send .. | .offered _ | .transmit .. | .held .. | .onLink _ => some .sent
  | .post .. => some .posted
  | .publish .. | .deliver _ => some .published
  | .hand .. | .behave .. => some .taken
  | _ => none

/-- With this action something new begins: nobody goes on to it who is at it already. -/
def Action.opens : Action → Bool
  | .send .. | .post .. | .publish .. | .hand .. => true
  | _ => false

/-- What is waited for, and what it is waited for to reply about. -/
def Then.turns? : Then → Option (Topic × Topic)
  | .posted => some (.sent, .posted)
  | .forwarded => some (.posted, .taken)
  | .handed _ => some (.taken, .published)
  | .published .. => some (.published, .taken)
  | _ => none

/-- Each of those who wait takes up what the one before it replies about. -/
inductive Chain : Topic → List Then → Topic → Prop
  | nil {topic : Topic} : Chain topic [] topic
  | cons {k : Then} {lower topic last : Topic} {rest : List Then}
      (turns : k.turns? = some (lower, topic)) (chain : Chain topic rest last) :
      Chain lower (k :: rest) last

namespace Node

/-- The task has a call on the link, which came to send. -/
def Sends (n : Node) (id : TaskId) (t : TransportId) : Prop :=
  ∃ c bytes, n.call? t id = some c ∧ c.job = .send bytes ∧ c.Suits

/-- What a task does is to end with a reply about the topic. -/
inductive Speaks (n : Node) (id : TaskId) : Activity → Topic → Prop
  | acting {a : Action} {topic : Topic} (about : a.topic? = some topic)
      (sends : ∀ t, a = .onLink t → n.Sends id t) : Speaks n id (.acting a) topic
  | replying {r : Reply} {topic : Topic} (about : r.topic? = some topic) :
      Speaks n id (.replying r) topic

/-- What one step of an action about a topic leads to. -/
inductive Leads (n : Node) (id : TaskId) (topic : Topic) : Transition → Prop
  | go {a : Action} (speaks : Speaks n id (.acting a) topic) (on : a.opens = false) :
      Leads n id topic (.go a)
  | call {a : Action} {k : Then} {lower : Topic} (speaks : Speaks n id (.acting a) lower)
      (turns : k.turns? = some (lower, topic)) : Leads n id topic (.call a k)
  | reply {r : Reply} (about : r.topic? = some topic) : Leads n id topic (.reply r)

variable {n n' : Node} {id : TaskId} {a : Action} {next : Transition} {topic : Topic} {m : Move}
  {t : TransportId}

/-- An action that is not a call on a link. -/
theorem speaks_of_topic (about : a.topic? = some topic) (off : ∀ t, a ≠ .onLink t) :
    Speaks n id (.acting a) topic := .acting about fun t h => absurd h (off t)

theorem leads_to (about : a.topic? = some topic) (off : ∀ t, a ≠ .onLink t)
    (on : a.opens = false) : Leads n id topic (.go a) := .go (speaks_of_topic about off) on

theorem leads_through {k : Then} {lower : Topic} (about : a.topic? = some lower)
    (off : ∀ t, a ≠ .onLink t) (turns : k.turns? = some (lower, topic)) :
    Leads n id topic (.call a k) := .call (speaks_of_topic about off) turns

/-! ## One step of an action -/

theorem call?_setLink {l l' : Link} {dialer : Option Dialer} {tr : Transport}
    (h : n.transports.get? t = some tr) :
    (n.setLink t l l' dialer).call? t id = l'.calls.get? id := by
  rw [call?, link?, face_setLink, face_of_get? h]
  rfl

theorem call?_eq {tr : Transport} {l : Link} {dialer : Option Dialer}
    (found : n.transports.get? t = some tr) (on : tr.carrier = .link l dialer) :
    n.call? t id = l.calls.get? id := by
  rw [call?, link?_eq_some.mpr ⟨tr, dialer, found, on⟩, Option.bind_some]

/-- A call that comes to a link is there. -/
theorem call?_of_comes {tr : Transport} {l l' : Link} {dialer : Option Dialer} {job : Link.Job}
    (found : n.transports.get? t = some tr) (step : Link.Step l (.call id job) l') :
    (n.setCarrier t (.link l' dialer)).call? t id = some { job } := by
  cases step with
  | call fresh =>
      simp only [call?, link?, face_setCarrier, face_of_get? found, if_true]
      exact Assoc.get?_set_self ..

/-- A call that goes on keeps to what it came for. -/
theorem Prompts.stays {tr : Transport} {l l' : Link} {dialer dialer' : Option Dialer}
    {e : Link.Event} {c : Link.Call} (h : Prompts n l dialer id e dialer' n')
    (found : n.transports.get? t = some tr) (call : l.calls.get? id = some c)
    (step : Link.Step l e l') (goesOn : e ≠ .collect id) :
    ∃ c', (n'.setLink t l l' dialer').call? t id = some c' ∧ c'.job = c.job ∧
      (c.Suits → c'.Suits) := by
  have hdrop : e ≠ .drop id := by
    rintro rfl
    exact absurd h.underWay (by simp [Link.Event.underWay])
  obtain ⟨c', hcall, hjob, hsuits⟩ := step.stays call goesOn hdrop
  have hget : n'.transports.get? t = some tr := by rw [h.outdoors.transports, found]
  exact ⟨c', by rw [call?_setLink hget, hcall], hjob, hsuits⟩

/-- What a call comes to is an outcome of what it came for. -/
theorem replyOf_collect {l l' : Link} {c : Link.Call} (call : l.calls.get? id = some c)
    (step : Link.Step l (.collect id) l') (suits : c.Suits) :
    (∃ bytes r, c.job = .send bytes ∧ replyOf c = .sent r) ∨
      ∃ r, c.job = .receive ∧ replyOf c = .received r := by
  cases step with
  | @collect _ c' outcome call' phase =>
      cases call.symm.trans call'
      rw [Link.Call.Suits, phase] at suits
      unfold replyOf
      rw [phase]
      cases hjob : c.job <;> rw [hjob] at suits <;> cases outcome <;> cases suits
      · exact .inl ⟨_, _, rfl, rfl⟩
      · exact .inl ⟨_, _, rfl, rfl⟩
      · exact .inr ⟨_, rfl, rfl⟩
      · exact .inr ⟨_, rfl, rfl⟩

theorem Proceeds.leads (h : Proceeds n id a next) (about : a.topic? = some topic) :
    Leads n id topic next := by
  cases h with
  | passesOn | publishes =>
      cases about
      exact leads_to rfl (by simp) rfl
  | delivers | forwards | speaks | posts =>
      cases about
      exact leads_through rfl (by simp) rfl
  | refused | sendsNothing | declines | delivered | logs | misses | answers | unframed =>
      cases about
      exact .reply rfl
  | _ => cases about

/-- **An action keeps to its topic.** -/
theorem act_leads (hspeaks : Speaks n id (.acting a) topic) (h : n.act id a = some (n', next)) :
    Leads n' id topic next := by
  obtain ⟨about, sends⟩ := hspeaks
  cases Acts.of_act h with
  | proceeds proceeds => exact proceeds.leads about
  | offers | waits | wakes | subscribes | unsubscribes =>
      cases about
      exact leads_to rfl (by simp) rfl
  | turnsBack | queues | spreads | records | fails | passesGate =>
      cases about
      exact .reply rfl
  | @callsToSend t f _ _ _ _ found on step =>
      cases about
      refine .go (.acting rfl ?_) rfl
      rintro _ ⟨⟩
      exact ⟨{ job := .send f.encode }, f.encode, call?_of_comes found step, rfl, rfl⟩
  | @calls t _ _ _ _ _ c _ _ found on call prompts step goesOn =>
      cases about
      obtain ⟨c', bytes, hcall, hjob, hsuits⟩ := sends t rfl
      cases call.symm.trans ((call?_eq found on).symm.trans hcall)
      obtain ⟨c'', hcall'', hjob'', hsuits''⟩ := prompts.stays found call step goesOn
      refine .go (.acting rfl ?_) rfl
      rintro _ ⟨⟩
      exact ⟨c'', bytes, hcall'', hjob''.trans hjob, hsuits'' hsuits⟩
  | @collects t _ _ _ _ c found on call step =>
      cases about
      obtain ⟨c', bytes, hcall, hjob, hsuits⟩ := sends t rfl
      cases call.symm.trans ((call?_eq found on).symm.trans hcall)
      rcases replyOf_collect call step hsuits with ⟨_, r, -, hreply⟩ | ⟨r, hreceive, -⟩
      · rw [hreply]
        exact .reply rfl
      · cases hjob.symm.trans hreceive
  | _ => cases about

/-- **A reply about a topic is taken up by who waits for one.** -/
theorem resume_leads {k : Then} {r : Reply} {lower : Topic} (about : r.topic? = some lower)
    (turns : k.turns? = some (lower, topic)) (h : n.resume k r = (n', next)) :
    Leads n' id topic next := by
  cases Resumes.of_resume h with
  | handed | published =>
      cases turns
      exact leads_to rfl (by simp) rfl
  | forwarded | posted =>
      cases turns
      exact .reply rfl
  | mismatched other => cases k <;> cases turns <;> cases r <;> cases about <;> cases other
  | _ => cases turns

/-! ## A task that is about something -/

/-- A task has come from `base`, which waits for a reply about `last`: `frames` of those
who wait are its own. -/
structure Speaking (n : Node) (id : TaskId) (base : Task) (last : Topic) (frames : List Then)
    (activity : Activity) : Prop where
  found : n.tasks.get? id = some { base with activity, pending := frames ++ base.pending }
  chain : ∃ topic, Speaks n id activity topic ∧ Chain topic frames last

variable {base : Task} {last : Topic} {frames : List Then} {activity : Activity}

theorem Sends.lt (h : n.Sends id t) (hn : Numbered n) : t < n.fresh := by
  obtain ⟨c, bytes, hcall, -⟩ := h
  obtain ⟨l, hlink, -⟩ := Option.bind_eq_some_iff.mp hcall
  obtain ⟨f, hface, -⟩ := Option.bind_eq_some_iff.mp hlink
  exact hn.lt_of_face hface

theorem Speaks.beside (h : Speaks n id activity topic) (hn : Numbered n)
    (hmove : n.move m = some n') (hother : m ≠ .step id) : Speaks n' id activity topic := by
  cases h with
  | acting about sends =>
      refine .acting about fun t ha => ?_
      have hsends := sends t ha
      unfold Sends
      rw [call?_move hn hmove (hsends.lt hn) hother]
      exact hsends
  | replying about => exact .replying about

/-- Other moves do not interfere. -/
theorem Speaking.beside (h : Speaking n id base last frames activity) (hn : Numbered n)
    (hmove : n.move m = some n') (hother : m ≠ .step id) :
    Speaking n' id base last frames activity := by
  obtain ⟨hfound, topic, hspeaks, hchain⟩ := h
  refine ⟨?_, topic, hspeaks.beside hn hmove hother, hchain⟩
  rw [task_of_move hn hmove (hn.lt_of_task hfound) hother, hfound]

theorem found_setTask (n : Node) (id : TaskId) (task : Task) :
    (n.setTask id task).tasks.get? id = some task := Assoc.get?_set_self ..

theorem Speaks.setTask (h : Speaks n id activity topic) (task : Task) :
    Speaks (n.setTask id task) id activity topic := by
  cases h with
  | acting about sends => exact .acting about sends
  | replying about => exact .replying about

/-- What a transition makes of the task; something new begins only with somebody who
waits for it. -/
theorem Leads.speaking (h : Leads n id topic next) (chain : Chain topic frames last) :
    ∃ frames' activity', Speaking (n.setTask id
      ({ base with activity, pending := frames ++ base.pending }.advance next)) id base last
      frames' activity' ∧ (frames' = [] → ∀ a, activity' = .acting a → a.opens = false) := by
  cases h with
  | @go a speaks on =>
      refine ⟨frames, .acting a, ⟨found_setTask .., topic, speaks.setTask _, chain⟩, ?_⟩
      intro _ a' ha
      cases ha
      exact on
  | @call a k lower speaks turns =>
      exact ⟨k :: frames, .acting a,
        ⟨found_setTask .., lower, speaks.setTask _, .cons turns chain⟩, fun h => by cases h⟩
  | @reply r about =>
      exact ⟨frames, .replying r, ⟨found_setTask .., topic, .replying about, chain⟩,
        fun _ _ h => by cases h⟩

/-- **A task that is about something stays so until it has the reply it came for.** -/
theorem Speaking.step (h : Speaking n id base last frames activity) (hstep : n.step id = some n')
    (inside : frames = [] → ∃ a, activity = .acting a) :
    n'.tasks.get? id = none ∨ ∃ frames' activity', Speaking n' id base last frames' activity' ∧
      (frames' = [] → ∀ a, activity' = .acting a → a.opens = false) := by
  obtain ⟨found, topic, speaks, chain⟩ := h
  cases activity with
  | acting a =>
      rcases step_of_acting found rfl hstep with hgone | ⟨after, next, hact, -, rfl⟩
      · exact .inl hgone
      · exact .inr ((act_leads speaks hact).speaking chain)
  | replying r =>
      cases chain with
      | nil =>
          obtain ⟨a, ha⟩ := inside rfl
          cases ha
      | cons turns chain =>
          cases speaks with
          | replying about =>
              rcases step_of_replying found rfl rfl hstep with hgone | ⟨after, next, hres, -, rfl⟩
              · exact .inl hgone
              · exact .inr ((resume_leads about turns hres).speaking chain)

end Node

end TelemetryRelay
