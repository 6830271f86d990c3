/-!
# Cancellation signals

A signal is raised by the one who may raise it, and from then on it stays raised. Every listener
knows the version of the signal that it looked at last: one that waits looks again when there is a
newer version, and learns that it waits in vain when the one who may raise the signal went away.
-/

namespace ApprovalWatch

/-! ## Listeners -/

namespace Signal

/-- What a listener is doing. -/
inductive Stance where
  | idle
  | waiting
  /-- It waits for a signal that nobody can raise any more. -/
  | stranded
  /-- Its waiting came to an end at an instant. -/
  | resumed (atMs : Nat)
  deriving DecidableEq, Repr

/-- The instant at which its waiting came to an end, if it did. -/
def Stance.resumedMs? : Stance → Option Nat
  | resumed atMs => some atMs
  | _ => none

/-- A listener, with the version of the signal that it looked at last (`CancelListener`). -/
structure Listener where
  seen : Nat
  stance : Stance := .idle
  deriving DecidableEq, Repr

end Signal

/-- A signal with its listeners, at an instant (`Cancellation` with the channel under it). Whoever
may raise it can go away. Raising it makes a new version of it. -/
structure Signal where
  raised : Bool := false
  version : Nat := 0
  present : Bool := true
  listeners : List Signal.Listener := []
  nowMs : Nat := 0
  deriving DecidableEq, Repr

namespace Signal

/-- The listener after it looked at the signal in order to wait for it (a look in
`CancelListener.cancelled`). -/
def Listener.look (s : Signal) (_l : Listener) : Listener where
  seen := s.version
  stance := if s.raised then .resumed s.nowMs else if s.present then .waiting else .stranded

/-- The listener after it was told that something changed: if it waits, it looks again at a newer
version (`wait_for` in `CancelListener.cancelled` when the channel notifies). -/
def Listener.wake (s : Signal) (l : Listener) : Listener :=
  match l.stance with
  | .waiting =>
    if l.seen ≠ s.version then l.look s
    else if s.present then l
    else { l with stance := .stranded }
  | _ => l

/-! ## Events -/

/-- What may happen to a signal and its listeners. -/
inductive Event where
  | listen
  | copy (listener : Nat)
  | raise
  | drop
  | ask (listener : Nat)
  | wait (listener : Nat)
  /-- A listener does not wait any longer. -/
  | leave (listener : Nat)
  | pass (ms : Nat)
  deriving DecidableEq, Repr

/-- The signal with all its listeners told that something changed. -/
def notify (s : Signal) : Signal :=
  { s with listeners := s.listeners.map (·.wake s) }

/-- The signal raised, if there is anyone to raise it (`Cancellation.trigger`). -/
def raise (s : Signal) : Signal :=
  if s.present then notify { s with raised := true, version := s.version + 1 } else s

/-- The signal after the one who may raise it went away. -/
def drop (s : Signal) : Signal :=
  notify { s with present := false }

/-- The signal with one more listener, who knows its present version (`Cancellation.subscribe`). -/
def listen (s : Signal) : Signal :=
  if s.present then { s with listeners := s.listeners ++ [{ seen := s.version }] } else s

/-- The signal with a copy of a listener, who knows the same version. -/
def copy (s : Signal) (i : Nat) : Signal :=
  match s.listeners[i]? with
  | some l => { s with listeners := s.listeners ++ [{ seen := l.seen }] }
  | none => s

/-- What a listener hears (`CancelListener.is_cancelled`). -/
def isCancelled (s : Signal) (_listener : Nat) : Bool :=
  s.raised

/-- The signal after an event. -/
def apply (s : Signal) : Event → Signal
  | .listen => s.listen
  | .copy i => s.copy i
  | .raise => s.raise
  | .drop => s.drop
  | .ask _ => s
  | .wait i => { s with listeners := s.listeners.modify i (·.look s) }
  | .leave i => { s with listeners := s.listeners.modify i fun l => { l with stance := .idle } }
  | .pass ms => { s with nowMs := s.nowMs + ms }

/-- The signal after one event after the other. -/
def after (s : Signal) (es : List Event) : Signal :=
  es.foldl apply s

/-- The instant at which the waiting of a listener came to an end, if it did. -/
def resumedMs? (s : Signal) (i : Nat) : Option Nat :=
  s.listeners[i]?.bind (·.stance.resumedMs?)

theorem after_append (s : Signal) (es es' : List Event) :
    s.after (es ++ es') = (s.after es).after es' :=
  List.foldl_append

/-! ## Waiting -/

/-- How waiting for a signal ends. -/
structure Wait where
  cancelled : Bool
  afterMs : Nat
  deriving DecidableEq, Repr

/-- Waiting for at most `timeoutMs`, while the signal is to be raised after `raiseAfterMs`
(`CancelListener.cancelled` under a timeout). That does not happen if the waiting is over by
then. -/
def wait (s : Signal) (i timeoutMs : Nat) (raiseAfterMs : Option Nat) : Signal × Wait :=
  let begun := s.apply (.wait i)
  match begun.resumedMs? i with
  | some atMs => (begun, ⟨true, atMs - s.nowMs⟩)
  | none =>
    let waited :=
      match raiseAfterMs with
      | some a => if a < timeoutMs then begun.after [.pass a, .raise] else begun
      | none => begun
    match waited.resumedMs? i with
    | some atMs => (waited, ⟨true, atMs - s.nowMs⟩)
    | none =>
      (waited.after [.pass (s.nowMs + timeoutMs - waited.nowMs), .leave i], ⟨false, timeoutMs⟩)

/-! ## Histories -/

/-- What may be done with a signal and its listeners. -/
inductive Step where
  | listen
  | copy (listener : Nat)
  | raise
  | isRaised
  | drop
  | isCancelled (listener : Nat)
  | wait (listener timeoutMs : Nat) (raiseAfterMs : Option Nat)
  deriving DecidableEq, Repr

/-- What comes of it. -/
inductive Answer where
  | done
  | gone
  | listener (index : Nat)
  | holds (value : Bool)
  | waited (wait : Wait)
  deriving DecidableEq, Repr

/-- The signal after a step, and what comes of the step. -/
def step (s : Signal) : Step → Signal × Answer
  | .listen => (s.apply .listen, if s.present then .listener s.listeners.length else .gone)
  | .copy i => (s.apply (.copy i), .listener s.listeners.length)
  | .raise => (s.apply .raise, if s.present then .done else .gone)
  | .isRaised => (s, if s.present then .holds s.raised else .gone)
  | .drop => (s.apply .drop, .done)
  | .isCancelled i => (s.apply (.ask i), .holds (s.isCancelled i))
  | .wait i timeoutMs raiseAfterMs =>
    let (s', w) := s.wait i timeoutMs raiseAfterMs
    (s', .waited w)

/-- The signal after one step after the other. -/
def afterSteps (s : Signal) (ps : List Step) : Signal :=
  ps.foldl (fun s p => (s.step p).1) s

/-- The answers to a sequence of steps. -/
def run (s : Signal) : List Step → List Answer
  | [] => []
  | p :: ps => (s.step p).2 :: run (s.step p).1 ps

end Signal

end ApprovalWatch
