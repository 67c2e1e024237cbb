import TelemetryRelay.Proofs.Outbox.Steps

/-!
# What an outbox does with its frames

As long as an outbox is open and what is underneath it recovers from whatever
fails, all frames that it has accepted are those that were sent, the one that its
sender has, and those in the queue, in this order.
-/

namespace TelemetryRelay.Outbox

open Wire

/-- The frame that the sender has. -/
def Sender.frame? : Sender → Option Frame
  | .sending f | .pausing f _ => some f
  | .idle | .stopped => none

/-- The frames that are in the outbox, the oldest first. -/
def contents (o : Outbox) : List Frame := o.sender.frame?.toList ++ o.queue

/-- The frame with which a producer stands in line. -/
def waiting? (o : Outbox) (id : CallId) : Option Frame :=
  (o.line.find? (·.1 == id)).map (·.2)

/-- The frame that a producer puts down with an event. -/
def accepts? : Outbox × Event → Option Frame
  | (o, .accept id) => o.waiting? id
  | _ => none

/-- The frame that is out with an event. -/
def sends? : Outbox × Event → Option Frame
  | (o, .sent .ok _) => o.sender.frame?
  | _ => none

/-- The frames whose producers were told that they are accepted. -/
def accepted (o : Outbox) (es : List Event) : List Frame := (history o es).filterMap accepts?

/-- The frames that were sent. -/
def delivered (o : Outbox) (es : List Event) : List Frame := (history o es).filterMap sends?

/-- What is underneath can recover, and was not closed. -/
def Event.Recovers : Event → Prop
  | .sent outcome _ => ∃ result : Except LinkError Unit, result ≠ .error .closed ∧
      outcome = .ofResult true result
  | _ => True

variable {o o' o₀ : Outbox} {e : Event} {es : List Event}

theorem accepted_snoc (hrun : o₀.run es = some o) :
    accepted o₀ (es ++ [e]) = accepted o₀ es ++ (accepts? (o, e)).toList :=
  filterMap_history_snoc accepts? hrun

theorem delivered_snoc (hrun : o₀.run es = some o) :
    delivered o₀ (es ++ [e]) = delivered o₀ es ++ (sends? (o, e)).toList :=
  filterMap_history_snoc sends? hrun

theorem not_lost_of_recovers {outcome : Sent} {now : Nat} (h : (Event.sent outcome now).Recovers) :
    ¬ (outcome = .closed ∨ outcome = .failed false) := by
  obtain ⟨result, hopen, rfl⟩ := h
  cases result with
  | ok => simp [Sent.ofResult]
  | error cause =>
      cases cause with
      | closed => exact absurd rfl hopen
      | _ => simp [Sent.ofResult]

/-! ## What one step does -/

/-- What was in an outbox and what comes in is what goes out and what is in it then. -/
theorem Step.conserves (h : Step o e o') (hopen : o'.closed = false) (hrecovers : e.Recovers) :
    o.contents ++ (accepts? (o, e)).toList = (sends? (o, e)).toList ++ o'.contents := by
  cases h with
  | accept found => simp [contents, accepts?, waiting?, sends?, found, leave]
  | take idle queued => simp [contents, accepts?, sends?, Sender.frame?, idle, queued]
  | sent sending => simp [contents, accepts?, sends?, Sender.frame?, sending]
  | keep sending => simp [contents, accepts?, sends?, Sender.frame?, sending]
  | retry pausing => simp [contents, accepts?, sends?, Sender.frame?, pausing]
  | giveUp sending lost => exact absurd lost (not_lost_of_recovers hrecovers)
  | halt closed =>
      rw [show o.closed = false from hopen] at closed
      cases closed
  | close => cases hopen
  | offer | refuse => simp [contents, accepts?, sends?, leave]

/-- Whoever is admitted finds a place in the queue. -/
theorem lt_of_isAdmitted {id : CallId} (h : o.isAdmitted id = true) :
    o.queue.length < o.capacity := by
  by_contra hfull
  have hnone : o.admitted = 0 := Nat.sub_eq_zero_of_le (Nat.not_lt.mp hfull)
  simp [isAdmitted, hnone] at h

theorem Step.within (h : Step o e o') (hwithin : o.queue.length ≤ o.capacity) :
    o'.queue.length ≤ o'.capacity ∧ o'.capacity = o.capacity := by
  cases h with
  | accept found admitted =>
      have hroom := lt_of_isAdmitted admitted
      exact ⟨by simpa [leave, Nat.succ_le_iff] using hroom, rfl⟩
  | take idle queued =>
      rw [queued] at hwithin
      exact ⟨Nat.le_of_succ_le hwithin, rfl⟩
  | giveUp | halt => exact ⟨Nat.zero_le _, rfl⟩
  | _ => exact ⟨hwithin, rfl⟩

theorem Step.works (h : Step o e o') (hopen : o'.closed = false) (hrecovers : e.Recovers)
    (hworks : o.sender ≠ .stopped) : o'.sender ≠ .stopped := by
  cases h with
  | giveUp sending lost => exact absurd lost (not_lost_of_recovers hrecovers)
  | halt closed =>
      rw [show o.closed = false from hopen] at closed
      cases closed
  | offer | accept | refuse | close => exact hworks
  | take | sent | keep | retry => simp

theorem Step.opened (h : Step o e o') (hopen : o'.closed = false) : o.closed = false := by
  cases h with
  | close => cases hopen
  | _ => exact hopen

theorem hasInLine_of_waiting? {id : CallId} {f : Frame} (h : o.waiting? id = some f) :
    o.hasInLine id = true := by
  obtain ⟨p, found, -⟩ := Option.map_eq_some_iff.mp h
  refine List.any_eq_true.mpr ⟨p, List.mem_of_find?_eq_some found, ?_⟩
  exact List.find?_some (p := fun q : CallId × Frame => q.1 == id) found

theorem waiting?_leave (o : Outbox) (id j : CallId) :
    (o.leave j).waiting? id = if id = j then none else o.waiting? id := by
  simp only [waiting?, leave, List.find?_filter]
  split
  · rename_i hid
    simp [hid]
  · rename_i hid
    congr 2
    funext p
    by_cases hp : p.1 = id <;> simp [hp, hid]

theorem waiting?_offer {id j : CallId} {f : Frame} (hnew : o.line.any (·.1 == id) = false) :
    ({ o with line := o.line ++ [(id, f)] } : Outbox).waiting? j =
      if j = id then some f else o.waiting? j := by
  have hnone : o.line.find? (·.1 == id) = none := by
    rw [List.find?_eq_none]
    exact List.any_eq_false.mp hnew
  simp only [waiting?, List.find?_append]
  split
  · rename_i hj
    simp [hj, hnone]
  · rename_i hj
    simp [Ne.symm hj]

/-- Whoever stands in line has just come, or stood there before. -/
theorem Step.waits (h : Step o e o') {id : CallId} {f : Frame} (hwaits : o'.waiting? id = some f) :
    e = .offer id f ∨ e ≠ .accept id ∧ e ≠ .refuse id ∧ o.waiting? id = some f := by
  cases h with
  | @offer j g new =>
      rw [waiting?_offer new] at hwaits
      split at hwaits
      · rename_i hid
        cases hwaits
        exact .inl (by rw [hid])
      · exact .inr ⟨by simp, by simp, hwaits⟩
  | @accept j p found admitted works =>
      replace hwaits : (o.leave j).waiting? id = some f := hwaits
      rw [waiting?_leave] at hwaits
      split at hwaits
      · cases hwaits
      · rename_i hid
        exact .inr ⟨by simpa using Ne.symm hid, by simp, hwaits⟩
  | @refuse j waits useless =>
      rw [waiting?_leave] at hwaits
      split at hwaits
      · cases hwaits
      · rename_i hid
        exact .inr ⟨by simp, by simpa using Ne.symm hid, hwaits⟩
  | _ => exact .inr ⟨by simp, by simp, hwaits⟩

/-- The producer came with the frame and has not been told anything since. -/
def Offers (es : List Event) (id : CallId) (f : Frame) : Prop :=
  ∃ before after, es = before ++ .offer id f :: after ∧ .accept id ∉ after ∧ .refuse id ∉ after

/-! ## What a run does -/

/-- An outbox in use, which has accepted some frames and sent others: nothing is missing,
nothing twice, and the order is kept. -/
structure Orderly (capacity : Nat) (accepted delivered : List Frame) (o : Outbox) : Prop where
  contents : accepted = delivered ++ o.contents
  within : o.queue.length ≤ o.capacity
  capacity : o.capacity = max capacity 1
  works : o.sender ≠ .stopped

section Orderly

variable {capacity retryPause : Nat} {accepts delivers : List Frame}

theorem orderly_make (capacity retryPause : Nat) :
    Orderly capacity [] [] (make capacity retryPause) :=
  ⟨rfl, Nat.zero_le _, rfl, by simp [make]⟩

theorem Orderly.step (h : Orderly capacity accepts delivers o) (hstep : Step o e o')
    (hopen : o'.closed = false) (hrecovers : e.Recovers) :
    Orderly capacity (accepts ++ (accepts? (o, e)).toList) (delivers ++ (sends? (o, e)).toList)
      o' := by
  obtain ⟨hwithin, hcapacity⟩ := hstep.within h.within
  refine ⟨?_, hwithin, hcapacity.trans h.capacity, hstep.works hopen hrecovers h.works⟩
  calc accepts ++ (accepts? (o, e)).toList
      = delivers ++ (o.contents ++ (accepts? (o, e)).toList) := by
        rw [h.contents, List.append_assoc]
    _ = delivers ++ ((sends? (o, e)).toList ++ o'.contents) := by
        rw [hstep.conserves hopen hrecovers]
    _ = delivers ++ (sends? (o, e)).toList ++ o'.contents := (List.append_assoc ..).symm

/-- What is between the outbox and its sender alone leaves all frames where they are. -/
theorem Orderly.beside (h : Orderly capacity accepts delivers o) (hstep : Step o e o')
    (hopen : o'.closed = false) (hrecovers : e.Recovers) (haccepts : accepts? (o, e) = none)
    (hsends : sends? (o, e) = none) : Orderly capacity accepts delivers o' := by
  simpa [haccepts, hsends] using h.step hstep hopen hrecovers

theorem Orderly.inOrder (h : Orderly capacity accepts delivers o) :
    accepts = delivers ++ o.sender.frame?.toList ++ o.queue := by
  rw [h.contents, Outbox.contents, List.append_assoc]

/-- The queue keeps to its bound. -/
theorem Orderly.bounded (h : Orderly capacity accepts delivers o) :
    o.queue.length ≤ max capacity 1 := by
  rw [← h.capacity]
  exact h.within

/-- The sender has the oldest frame that is not out. -/
theorem Orderly.oldest (h : Orderly capacity accepts delivers o) {f : Frame}
    (hframe : o.sender.frame? = some f) : (accepts.drop delivers.length).head? = some f := by
  rw [h.contents, List.drop_left, Outbox.contents, hframe]
  rfl

theorem orderly_of_run (hrun : (make capacity retryPause).run es = some o)
    (hopen : o.closed = false) (hrecovers : ∀ e ∈ es, e.Recovers) :
    Orderly capacity (accepted (make capacity retryPause) es)
      (delivered (make capacity retryPause) es) o := by
  refine run_induction (P := fun es o => o.closed = false → (∀ e ∈ es, e.Recovers) →
    Orderly capacity (accepted (make capacity retryPause) es)
      (delivered (make capacity retryPause) es) o) ?_ ?_ hrun hopen hrecovers
  · exact fun _ _ => orderly_make capacity retryPause
  · intro es e o o' hrun hbefore hstep hopen hrecovers
    have horderly := hbefore (hstep.opened hopen) fun x hx =>
      hrecovers x (List.mem_append_left _ hx)
    rw [accepted_snoc hrun, delivered_snoc hrun]
    exact horderly.step hstep hopen (hrecovers e (by simp))

end Orderly

theorem offers_of_run {capacity retryPause : Nat} (hrun : (make capacity retryPause).run es = some o)
    {id : CallId} {f : Frame} (hwaits : o.waiting? id = some f) : Offers es id f := by
  refine run_induction (P := fun es o => ∀ f, o.waiting? id = some f → Offers es id f) ?_ ?_ hrun f
    hwaits
  · intro f hwaits
    cases hwaits
  · intro es e o o' hrun hbefore hstep f hwaits
    rcases hstep.waits hwaits with rfl | ⟨haccept, hrefuse, hwaited⟩
    · exact ⟨es, [], rfl, by simp, by simp⟩
    · obtain ⟨before, after, rfl, hnot, hnot'⟩ := hbefore f hwaited
      exact ⟨before, after ++ [e], by simp, by simp [hnot, Ne.symm haccept],
        by simp [hnot', Ne.symm hrefuse]⟩

end TelemetryRelay.Outbox
