import Mathlib.Data.List.Basic
import TelemetryRelay.Proofs.Node.Intake
import TelemetryRelay.Proofs.Node.Sharing

/-!
# What a delivery still has to send

While a message goes from one listener to the next, what has been sent because of it
and what is still due to be sent add up to the same.  That holds as long as nobody
publishes in the course of it, and whatever others do meanwhile.
-/

namespace TelemetryRelay

open Wire

/-- How much there is to do, at most, for an actor that does not publish. -/
def Behaviour.length : Behaviour → Nat
  | .finish _ | .publish .. => 0
  | .subscribe _ _ next => next.length + 1
  | .unsubscribe _ next => max (next true).length (next false).length + 1

def Action.sent? : Action → Option (TransportId × Frame)
  | .send t f => some (t, f)
  | _ => none

namespace Node

section Dues

variable (n : Node)

/-- What a listener has to be sent for a message, and over which transport. -/
def due (message : Message) : Listener → List (TransportId × Frame)
  | .bridge b => ((n.bridges.get? b).bind fun bridge =>
      (bridge.table.frameOf message).toOption.map (bridge.transport, ·)).toList
  | _ => []

def dueTo (message : Message) (recipients : List (Subscriber Listener)) :
    List (TransportId × Frame) := recipients.flatMap fun s => n.due message s.listener

/-- What is still to be sent because of an action. -/
def dueAt : Action → List (TransportId × Frame)
  | .deliver d => n.dueTo d.message d.remaining
  | .hand listener message => n.due message listener
  | .post b message => n.due message (.bridge b)
  | .send t f => [(t, f)]
  | _ => []

/-- What is still to be sent when an action has ended. -/
def dueAfter : Then → List (TransportId × Frame)
  | .handed d => n.dueTo d.message d.remaining
  | _ => []

def dueNext : Transition → List (TransportId × Frame)
  | .go a => n.dueAt a
  | .call a k => n.dueAt a ++ n.dueAfter k
  | .reply _ => []

def dueFrom (task : Task) : List (TransportId × Frame) :=
  task.activity.action?.elim [] n.dueAt ++ task.pending.flatMap n.dueAfter

/-- What a task still has to send. -/
def dues (id : TaskId) : List (TransportId × Frame) := (n.tasks.get? id).elim [] n.dueFrom

/-! ## Deliveries in which nobody publishes -/

/-- If the listener is a bridge, it exists. -/
def Knows (listener : Listener) : Prop :=
  ∀ b, listener.bridge? = some b → ∃ bridge, n.bridges.get? b = some bridge

def KnowsAll (recipients : List (Subscriber Listener)) : Prop :=
  ∀ s ∈ recipients, n.Knows s.listener

/-- Nothing is published by going on with the action, and it is about known bridges. -/
def Tame : Action → Prop
  | .publish .. => False
  | .behave _ behaviour => behaviour.Quiet
  | .deliver d => n.KnowsAll d.remaining
  | .hand listener _ => n.Knows listener
  | .post b _ => n.Knows (.bridge b)
  | _ => True

def TameAfter : Then → Prop
  | .published .. => False
  | .handed d => n.KnowsAll d.remaining
  | _ => True

def TameNext : Transition → Prop
  | .go a => n.Tame a
  | .call a k => n.Tame a ∧ n.TameAfter k
  | .reply _ => True

structure TameTask (task : Task) : Prop where
  acting : ∀ a, task.activity = .acting a → n.Tame a
  pending : ∀ k ∈ task.pending, n.TameAfter k

/-- The delivery that a task is at is one in which nobody publishes. -/
def IsTame (id : TaskId) : Prop := ∀ task, n.tasks.get? id = some task → n.TameTask task

end Dues

variable {n n' : Node} {id : TaskId} {a : Action} {next : Transition} {m : Move} {task : Task}
  {topic lower : Topic} {k : Then}

theorem dueFrom_advance (n : Node) (task : Task) (next : Transition) :
    n.dueFrom (task.advance next) = n.dueNext next ++ task.pending.flatMap n.dueAfter := by
  cases next with
  | go a => rfl
  | call a k =>
      show n.dueAt a ++ (k :: task.pending).flatMap n.dueAfter = n.dueAt a ++ n.dueAfter k ++ _
      rw [List.flatMap_cons, List.append_assoc]
  | reply r => rfl

theorem dues_of_found (found : n.tasks.get? id = some task) : n.dues id = n.dueFrom task := by
  simp [dues, found]

theorem TameTask.advance (h : n.TameTask task) (hnext : n.TameNext next) :
    n.TameTask (task.advance next) := by
  cases next with
  | go a =>
      refine ⟨?_, h.pending⟩
      rintro a' ⟨⟩
      exact hnext
  | call a k =>
      refine ⟨?_, ?_⟩
      · rintro a' ⟨⟩
        exact hnext.1
      · intro k' hk'
        rcases List.mem_cons.mp hk' with rfl | hk'
        · exact hnext.2
        · exact h.pending k' hk'
  | reply r =>
      refine ⟨?_, h.pending⟩
      rintro a' ⟨⟩

/-! ## What the others do -/

theorem Knows.move {listener : Listener} (h : n.Knows listener) (hn : Numbered n)
    (hmove : n.move m = some n') : n'.Knows listener := by
  intro b hb
  obtain ⟨bridge, found⟩ := h b hb
  obtain ⟨bridge', found', -⟩ := bridge_move hn hmove found
  exact ⟨bridge', found'⟩

theorem Knows.due_eq {listener : Listener} (h : n.Knows listener) (hn : Numbered n)
    (hmove : n.move m = some n') (message : Message) :
    n'.due message listener = n.due message listener := by
  cases listener with
  | actor name => rfl
  | logger => rfl
  | bridge b =>
      obtain ⟨bridge, found⟩ := h b rfl
      obtain ⟨bridge', found', hbridged⟩ := bridge_move hn hmove found
      -- A bridge may stop or start meanwhile; it keeps its table and its transport.
      simp only [due, found, found', Option.bind_some]
      cases hbridged <;> rfl

theorem KnowsAll.due_eq {recipients : List (Subscriber Listener)} (h : n.KnowsAll recipients)
    (hn : Numbered n) (hmove : n.move m = some n') (message : Message) :
    n'.dueTo message recipients = n.dueTo message recipients :=
  List.flatMap_congr fun s hs => (h s hs).due_eq hn hmove message

theorem Tame.move (h : n.Tame a) (hn : Numbered n) (hmove : n.move m = some n') :
    n'.Tame a ∧ n'.dueAt a = n.dueAt a := by
  cases a with
  | publish => exact h.elim
  | deliver d => exact ⟨fun s hs => (h s hs).move hn hmove, KnowsAll.due_eq h hn hmove d.message⟩
  | hand listener message => exact ⟨Knows.move h hn hmove, Knows.due_eq h hn hmove message⟩
  | post b message => exact ⟨Knows.move h hn hmove, Knows.due_eq h hn hmove message⟩
  | behave => exact ⟨h, rfl⟩
  | _ => exact ⟨trivial, rfl⟩

theorem TameAfter.move (h : n.TameAfter k) (hn : Numbered n) (hmove : n.move m = some n') :
    n'.TameAfter k ∧ n'.dueAfter k = n.dueAfter k := by
  cases k with
  | published => exact h.elim
  | handed d => exact ⟨fun s hs => (h s hs).move hn hmove, KnowsAll.due_eq h hn hmove d.message⟩
  | _ => exact ⟨trivial, rfl⟩

/-- A move leaves what a task has to send as it is, but for what the task does itself. -/
theorem TameTask.move (h : n.TameTask task) (hn : Numbered n) (hmove : n.move m = some n') :
    n'.TameTask task ∧ n'.dueFrom task = n.dueFrom task := by
  refine ⟨⟨fun a ha => ((h.acting a ha).move hn hmove).1,
    fun k hk => ((h.pending k hk).move hn hmove).1⟩, ?_⟩
  have hpending : task.pending.flatMap n'.dueAfter = task.pending.flatMap n.dueAfter :=
    List.flatMap_congr fun k hk => ((h.pending k hk).move hn hmove).2
  unfold dueFrom
  rw [hpending]
  cases hactivity : task.activity with
  | acting a =>
      have hdue := ((h.acting a hactivity).move hn hmove).2
      simp [Activity.action?, hdue]
  | replying r => rfl

/-! ## What the task itself does -/

/-- What one step of an action in a delivery leads to, if nobody publishes. -/
inductive Passes (n : Node) : Action → Transition → Prop
  | goesOn {a a' : Action} (about : a.topic? = some .sent) (about' : a'.topic? = some .sent)
      (on : a'.opens = false) : Passes n a (.go a')
  | sends {a : Action} {r : Reply} (about : a.topic? = some .sent) : Passes n a (.reply r)
  | posts {b : BridgeId} {message : Message} {bridge : Bridge} {f : Frame}
      (found : n.bridges.get? b = some bridge) (frame : bridge.table.frameOf message = .ok f) :
      Passes n (.post b message) (.call (.send bridge.transport f) .posted)
  | fails {b : BridgeId} {message : Message} {bridge : Bridge} {e : BridgeError}
      (found : n.bridges.get? b = some bridge) (frame : bridge.table.frameOf message = .error e) :
      Passes n (.post b message) (.reply (.posted (.error e)))
  | calls {d : Delivery Listener} {s : Subscriber Listener} {rest : List (Subscriber Listener)}
      (remaining : d.remaining = s :: rest) :
      Passes n (.deliver d)
        (.call (.hand s.listener d.message) (.handed { d with remaining := rest }))
  | ends {d : Delivery Listener} (remaining : d.remaining = []) :
      Passes n (.deliver d) (.reply (.published (.ok d.delivered)))
  | forwards {b : BridgeId} {message : Message} :
      Passes n (.hand (.bridge b) message) (.call (.post b message) .forwarded)
  | takes {listener : Listener} {message : Message} {r : Reply} (off : listener.bridge? = none) :
      Passes n (.hand listener message) (.reply r)
  | wakes {listener : Listener} {message : Message} {name : String} {behaviour : Behaviour}
      (off : listener.bridge? = none) (quiet : behaviour.Quiet) :
      Passes n (.hand listener message) (.go (.behave name behaviour))
  | behaves {name : String} {behaviour behaviour' : Behaviour} (quiet : behaviour'.Quiet)
      (less : behaviour'.length < behaviour.length) :
      Passes n (.behave name behaviour) (.go (.behave name behaviour'))
  | answers {name : String} {behaviour : Behaviour} {taken : Bool} :
      Passes n (.behave name behaviour) (.reply (.taken taken))

theorem passes_of_sent (h : Leads n' id .sent next) (about : a.topic? = some .sent) :
    Passes n a next := by
  cases h with
  | go speaks on =>
      cases speaks with
      | acting about' => exact .goesOn about about' on
  | @call a k lower speaks turns => cases k <;> cases turns
  | reply => exact .sends about

/-- **What a step in a delivery is.** -/
theorem passes_of_act (hspeaks : Speaks n id (.acting a) topic) (h : n.act id a = some (n', next))
    (tame : n.Tame a)
    (quiet : ∀ name actor, n.actors.get? name = some actor →
      ∀ calls message, (actor.behave calls message).Quiet) : Passes n a next := by
  have hleads := act_leads hspeaks h
  cases hspeaks with
  | acting about sends =>
      cases a with
      | send | offered | transmit | held | onLink =>
          cases about
          exact passes_of_sent hleads rfl
      | publish => exact tame.elim
      | deliver d =>
          cases Acts.of_act h with
          | proceeds proceeds =>
              cases proceeds with
              | delivered exhausted => exact .ends exhausted
              | delivers remaining => exact .calls remaining
      | hand listener message =>
          cases Acts.of_act h with
          | wakes found => exact .wakes rfl (quiet _ _ found _ _)
          | proceeds proceeds =>
              cases proceeds with
              | logs | misses => exact .takes rfl
              | forwards => exact .forwards
      | behave name behaviour =>
          cases tame with
          | finish =>
              cases h
              exact .answers
          | subscribe goesOn =>
              cases h
              exact .behaves goesOn (Nat.lt_succ_self _)
          | @unsubscribe who next' goesOn =>
              cases h
              refine .behaves (goesOn _) (Nat.lt_succ_of_le ?_)
              cases n.isSubscribed who with
              | true => exact Nat.le_max_left _ _
              | false => exact Nat.le_max_right _ _
      | post b message =>
          cases Acts.of_act h with
          | proceeds proceeds =>
              cases proceeds with
              | unframed found fails => exact .fails found fails
              | posts found frame => exact .posts found frame
      | _ => cases about

theorem sent?_of_on (on : a.opens = false) : a.sent? = none := by
  cases a <;> first | rfl | cases on

theorem dueAt_of_sent (about : a.topic? = some .sent) : n.dueAt a = a.sent?.toList := by
  cases a <;> first | rfl | cases about

theorem due_of_off {listener : Listener} (off : listener.bridge? = none) (message : Message) :
    n.due message listener = [] := by
  cases listener <;> first | rfl | cases off

/-- **What has been sent and what is still to be sent make up what was to be sent.** -/
theorem Passes.due (h : Passes n a next) : a.sent?.toList ++ n.dueNext next = n.dueAt a := by
  cases h with
  | goesOn about about' on =>
      show _ ++ n.dueAt _ = _
      rw [dueAt_of_sent about, dueAt_of_sent about', sent?_of_on on]
      exact List.append_nil _
  | sends about =>
      rw [dueAt_of_sent about]
      exact List.append_nil _
  | posts found frame =>
      simp [Action.sent?, dueNext, dueAt, dueAfter, Node.due, found, frame, Except.toOption]
  | fails found frame =>
      simp [Action.sent?, dueNext, dueAt, Node.due, found, frame, Except.toOption]
  | calls remaining =>
      show n.due _ _ ++ n.dueTo _ _ = n.dueTo _ _
      rw [remaining]
      rfl
  | ends remaining =>
      show [] = n.dueTo _ _
      rw [remaining]
      rfl
  | forwards => exact List.append_nil _
  | takes off | wakes off =>
      show [] = n.due _ _
      rw [due_of_off off]
  | behaves | answers => rfl

theorem Passes.tame (h : Passes n a next) (tame : n.Tame a) : n.TameNext next := by
  cases h with
  | @goesOn a a' about about' on =>
      show n.Tame a'
      cases a' <;> first | exact trivial | cases about'
  | calls remaining =>
      have hall : n.KnowsAll _ := tame
      rw [remaining] at hall
      exact ⟨hall _ (.head _), fun s hs => hall s (.tail _ hs)⟩
  | posts => exact ⟨trivial, trivial⟩
  | forwards => exact ⟨tame, trivial⟩
  | wakes _ quiet | behaves quiet => exact quiet
  | sends | fails | ends | takes | answers => exact trivial

/-- Whoever waits goes on with what was left for it. -/
theorem due_of_resume {r : Reply} (about : r.topic? = some lower)
    (turns : k.turns? = some (lower, topic)) (tame : n.TameAfter k)
    (h : n.resume k r = (n', next)) : n.dueNext next = n.dueAfter k ∧ n.TameNext next := by
  cases k with
  | posted | forwarded =>
      cases turns
      cases r <;> cases about
      cases h
      exact ⟨rfl, trivial⟩
  | handed d =>
      cases turns
      cases r <;> cases about
      cases h
      exact ⟨rfl, tame⟩
  | published => exact tame.elim
  | _ => cases turns

end Node

end TelemetryRelay
