/-!
# Activities

An activity waits some number of times, makes calls to the outside, and ends in a result. Activities
are chained, where the first failure ends the chain, or joined, where all members run side by side.

In a join of at most `Activity.joinLimit` members the failure that arrives first ends it; of those
that arrive together, the one that stands first. A longer join gives up its results in order, so
there the failure that stands first ends it, once all members before it are done.
-/

namespace ClusterPlan

/-- Each call comes with the number of waits before it. -/
structure Activity (κ ε α : Type) where
  waits : Nat
  calls : List (Nat × κ)
  result : Except ε α

namespace Activity

variable {κ ε ε' α β : Type}

def fail (e : ε) : Activity κ ε α := ⟨0, [], .error e⟩

def ofExcept (result : Except ε α) : Activity κ ε α := ⟨0, [], result⟩

/-- A call that is answered after some waits. -/
def call (c : κ) (waits : Nat) (result : Except ε α) : Activity κ ε α :=
  ⟨waits, [(0, c)], result⟩

def later (waits : Nat) (calls : List (Nat × κ)) : List (Nat × κ) :=
  calls.map fun (time, c) ↦ (waits + time, c)

def andThen (x : Activity κ ε α) (next : α → Activity κ ε β) : Activity κ ε β :=
  match x.result with
  | .ok a =>
    let y := next a
    ⟨x.waits + y.waits, x.calls ++ later x.waits y.calls, y.result⟩
  | .error e => ⟨x.waits, x.calls, .error e⟩

instance : Monad (Activity κ ε) where
  pure a := ⟨0, [], .ok a⟩
  bind := andThen

def mapError (f : ε → ε') (x : Activity κ ε α) : Activity κ ε' α :=
  ⟨x.waits, x.calls, x.result.mapError f⟩

/-- The same activity with calls that nobody keeps account of. -/
def unrecorded {κ' : Type} (x : Activity κ ε α) : Activity κ' ε α := ⟨x.waits, [], x.result⟩

/-- The calls in the order in which they are made. -/
def log (x : Activity κ ε α) : List κ := x.calls.map (·.2)

/-! ### Joins -/

def joinLimit : Nat := 30

/-- A failure of the member at a place, after so many waits. -/
structure Failure (ε : Type) where
  place : Nat
  waits : Nat
  error : ε

def failures (place : Nat) : List (Activity κ ε α) → List (Failure ε)
  | [] => []
  | x :: rest =>
    match x.result with
    | .error e => ⟨place, x.waits, e⟩ :: failures (place + 1) rest
    | .ok _ => failures (place + 1) rest

/-- The failure with the fewest waits; of equals the first. -/
def soonest : Failure ε → List (Failure ε) → Failure ε
  | best, [] => best
  | best, f :: rest => soonest (if f.waits < best.waits then f else best) rest

def longestWait (members : List (Activity κ ε α)) : Nat :=
  members.foldl (fun n x ↦ max n x.waits) 0

/-- The failure that ends a join, if any member fails. -/
def ending? (members : List (Activity κ ε α)) : Option (Failure ε) :=
  match failures 0 members with
  | [] => none
  | first :: others =>
    if members.length ≤ joinLimit then some (soonest first others)
    else some { first with waits := longestWait (members.take (first.place + 1)) }

def successes : List (Activity κ ε α) → List α
  | [] => []
  | x :: rest =>
    match x.result with
    | .ok a => a :: successes rest
    | .error _ => successes rest

/-- Calls of several members in the order of time, and at one time in the order of members. -/
def inTime (calls : List (Nat × κ)) : List (Nat × κ) := calls.mergeSort fun a b ↦ a.1 ≤ b.1

/-- The calls of a join that ends in a failure: when it arrives, only the members up to the failing
one have gone on. -/
def callsUntil (f : Failure ε) (members : List (Activity κ ε α)) : List (Nat × κ) :=
  members.zipIdx.flatMap fun (x, place) ↦
    x.calls.filter fun (time, _) ↦ time < f.waits || (time == f.waits && place ≤ f.place)

def join (members : List (Activity κ ε α)) : Activity κ ε (List α) :=
  match ending? members with
  | none =>
    ⟨longestWait members, inTime (members.flatMap (·.calls)), .ok (successes members)⟩
  | some f => ⟨f.waits, inTime (callsUntil f members), .error f.error⟩

/-- A join of three. -/
def joinThree (x y z : Activity κ ε α) : Activity κ ε (α × α × α) :=
  let joined := join [x, y, z]
  ⟨joined.waits, joined.calls,
    match ending? [x, y, z] with
    | some f => .error f.error
    | none => do return (← x.result, ← y.result, ← z.result)⟩

end Activity

end ClusterPlan
