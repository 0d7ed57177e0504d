/-
# Loading from several threads

A registry may be loaded from several threads at once. A call reads the loaded
flag and returns if it is set. Otherwise it acquires a lock, reads the flag
again, and, if it is still not set, registers the definitions one by one, links
the operators and sets the flag before it releases the lock.

A state gives each thread's position in its call; a move of a thread is one of
these steps. A thread that waits for the lock has no move while another holds
it. The order in which threads move is free.

Key definitions: `Loading.State`, `Loading.move?`, `Loading.run`.
-/
import ReportFilter.Registry

namespace ReportFilter
namespace Loading

/-- Where a thread stands. -/
inductive Position where
  /-- Between two calls. -/
  | outside
  /-- At the first look at the flag. -/
  | checking
  /-- At the lock. -/
  | waiting
  /-- At the second look at the flag. -/
  | rechecking
  /-- At the definitions that are left. -/
  | registering (rest : List Operator.Spec)
  /-- At the links. -/
  | linking
  /-- At the flag, to set it. -/
  | flagging
  /-- At the lock, to release it; the call returns or fails after that. -/
  | releasing (failed : Bool)
  deriving DecidableEq, Repr

/-- The registry and its lock, how often the definitions have been run, how
many calls have returned, and where the threads stand. -/
structure State where
  registry : Registry
  holder : Option Nat
  runs : Nat
  returned : Nat
  threads : List Position
  deriving DecidableEq, Repr

/-- No call has been made yet. -/
def start (r : Registry) (threads : Nat) : State := ⟨r, none, 0, 0, List.replicate threads .outside⟩

namespace State

/-- The state with a thread at another position. -/
def put (s : State) (thread : Nat) (p : Position) : State :=
  { s with threads := s.threads.set thread p }

/-- What a thread at a position does next. -/
def step? (validators : Validators) (s : State) (thread : Nat) : Position → Option State
  | .outside => some (s.put thread .checking)
  | .checking =>
    if s.registry.loaded then some { s.put thread .outside with returned := s.returned + 1 }
    else some (s.put thread .waiting)
  | .waiting =>
    match s.holder with
    | none => some { s.put thread .rechecking with holder := some thread }
    | some _ => none
  | .rechecking =>
    if s.registry.loaded then some (s.put thread (.releasing false))
    else some { s.put thread (.registering s.registry.definitions) with runs := s.runs + 1 }
  | .registering [] => some (s.put thread .linking)
  | .registering (spec :: rest) =>
    match s.registry.register validators spec with
    | .ok (_, r) => some { s.put thread (.registering rest) with registry := r }
    | .error _ => some (s.put thread (.releasing true))
  | .linking => some { s.put thread .flagging with registry := s.registry.linkAll }
  | .flagging =>
    some { s.put thread (.releasing false) with registry := { s.registry with loaded := true } }
  | .releasing failed =>
    some { s.put thread .outside with
      holder := none
      returned := if failed then s.returned else s.returned + 1 }

end State

/-- The next step of a thread, if it has one. -/
def move? (validators : Validators) (s : State) (thread : Nat) : Option State :=
  s.threads[thread]?.bind (s.step? validators thread)

/-- One step of some thread. -/
def Moves (validators : Validators) (s t : State) : Prop :=
  ∃ thread, move? validators s thread = some t

/-- The state after the threads have moved in the given order; a thread
without a move is passed over. -/
def run (validators : Validators) (s : State) : List Nat → State
  | [] => s
  | thread :: order => run validators ((move? validators s thread).getD s) order

/-- An order in which the first thread starts to register, all others call
while it does, the first then finishes, the others follow one by one, and the
first calls again. -/
def overlapping (definitions others : Nat) : List Nat :=
  let rest := (List.range others).map (· + 1)
  List.replicate 4 0 ++ (rest ++ rest ++ rest) ++ List.replicate (definitions + 4) 0 ++
    rest.flatMap (List.replicate 3) ++ [0, 0]

end Loading
end ReportFilter
