import Switchboard.Hook
import Switchboard.Operation

/-!
# Courses

What an open exchange does when nothing interrupts anything: submissions, bodies of operations,
calls for listening and hooks happen one after another, each as a whole, in any order. A submission
prepares the session and puts the operation at the end of the queue in one go.
-/

namespace Switchboard

structure Submission where
  session : SessionName
  operation : Operation Listener
  deriving DecidableEq, Repr

inductive Happening where
  | submit (submission : Submission)
  /-- The next operation in the queue is carried out. -/
  | work
  | listen (session : SessionName) (service : String) (listener : Listener)
      (options : ListeningOptions)
  | unlisten (session : SessionName)
  | hook (hook : Hook)
  deriving DecidableEq, Repr

/-- What shows of a happening: the outcome of an operation or a call, and what listeners are
told. -/
structure Upshot where
  status : Option Status := none
  emitted : List Emission := []
  deriving DecidableEq, Repr

structure Course where
  network : Network := {}
  waiting : List Submission := []
  deriving DecidableEq, Repr

namespace Course

def submit (c : Course) (s : Submission) : Course :=
  let session := s.operation.prepare (c.network.session s.session)
  { network := c.network.setSession s.session session, waiting := c.waiting ++ [s] }

/-- Carries a job out on the network of a course. -/
def carry {α : Type} (c : Course) (job : Job α) (status : α → Option Status) : Course × Upshot :=
  let (result, network, emitted) := job.run c.network
  ({ c with network := network }, { status := status result, emitted := emitted })

def step (c : Course) : Happening → Course × Upshot
  | .submit s => (c.submit s, {})
  | .work =>
    match c.waiting with
    | [] => (c, {})
    | s :: rest => { c with waiting := rest }.carry (s.operation.body s.session) some
  | .listen s service l options => c.carry (Transport.startListening s service l options) some
  | .unlisten s => c.carry (Transport.stopListening s) (fun _ => none)
  | .hook h =>
    let (network, emitted) := h.apply c.network
    ({ c with network := network }, { emitted := emitted })

/-- What shows of each happening in turn. -/
def run (c : Course) : List Happening → Course × List Upshot
  | [] => (c, [])
  | h :: hs =>
    let (c, u) := c.step h
    let (c, us) := run c hs
    (c, u :: us)

@[simp] theorem run_nil (c : Course) : c.run [] = (c, []) := rfl

@[simp] theorem run_cons (c : Course) (h : Happening) (hs : List Happening) :
    c.run (h :: hs) = (((c.step h).1.run hs).1, (c.step h).2 :: ((c.step h).1.run hs).2) := rfl

theorem run_append (c : Course) (hs ks : List Happening) :
    c.run (hs ++ ks) = (((c.run hs).1.run ks).1, (c.run hs).2 ++ ((c.run hs).1.run ks).2) := by
  induction hs generalizing c with
  | nil => rfl
  | cons h hs ih => simp [ih]

end Course

end Switchboard
