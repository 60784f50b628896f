import RowBinding.Row.Fingerprint
import RowBinding.Failure
import RowBinding.Log
/-!
# The cache of compiled routines

The cache keeps routines under the fingerprints of their shapes.  An entry, once published, stays
until the whole cache is dropped; a routine that could not be compiled leaves nothing behind.  The
counters never go back.

Entries may be of several kinds, and a request asks for one kind.  An entry of another kind under
the same fingerprint is not what was asked for, but it keeps its place.
-/
namespace RowBinding

/-- A state with the reports made so far. -/
structure Journaled (σ : Type) where
  state : σ
  log : List LogRecord

/-- A computation that may fail; what it did to the state and what it reported stay. -/
abbrev Job (σ : Type) := ExceptT Failure (StateM (Journaled σ))

namespace Job

variable {σ α : Type}

def get : Job σ σ := do return (← getThe (Journaled σ)).state

def set (s : σ) : Job σ Unit := modifyThe (Journaled σ) fun j => { j with state := s }

def report (level : LogLevel) (message : String) : Job σ Unit :=
  modifyThe (Journaled σ) fun j => { j with log := j.log ++ [⟨level, message⟩] }

/-- A result as a computation. -/
def ofResult : Result α → Job σ α
  | .ok a => pure a
  | .error e => throw e

/-- Runs a computation on a part of the state. -/
def onPart {τ : Type} (part : σ → τ) (replace : τ → σ → σ) (job : Job τ α) : Job σ α :=
  ExceptT.mk fun j =>
    let (r, i) := (ExceptT.run job).run ⟨part j.state, j.log⟩
    (r, ⟨replace i.state j.state, i.log⟩)

end Job

/-- A routine with the number of the compilation that made it.  Two requests got the same routine
exactly when these numbers agree. -/
structure Published (ε : Type) where
  serial : Nat
  routine : ε

/-- The routines by fingerprint, with the counters. -/
structure FunctionCache (ε : Type) where
  entries : List (Fingerprint × Published ε)
  /-- How many compilations succeeded. -/
  compilations : Nat
  /-- How many requests found their routine. -/
  hits : Nat

namespace FunctionCache

variable {ε β : Type}

def empty : FunctionCache ε := ⟨[], 0, 0⟩

def size (c : FunctionCache ε) : Nat := c.entries.length

def isEmpty (c : FunctionCache ε) : Bool := c.entries.isEmpty

/-- What is stored under a fingerprint. -/
def entry? (c : FunctionCache ε) (p : Fingerprint) : Option (Published ε) :=
  (c.entries.find? fun e => e.1.same p).map Prod.snd

/-- A published routine, if it is of the kind asked for. -/
def ofKind? (kind : ε → Option β) (e : Published ε) : Option (Published β) :=
  (kind e.routine).map fun r => ⟨e.serial, r⟩

/-- What is stored under a fingerprint, if it is of the kind asked for. -/
def find? (c : FunctionCache ε) (kind : ε → Option β) (p : Fingerprint) : Option (Published β) :=
  (c.entry? p).bind (ofKind? kind)

/-- Without entries; the counters stay. -/
def reset (c : FunctionCache ε) : FunctionCache ε := { c with entries := [] }

/-- With a routine stored under its fingerprint, unless something is stored there already. -/
def publish (c : FunctionCache ε) (p : Fingerprint) (e : Published ε) : FunctionCache ε :=
  match c.entry? p with
  | some _ => c
  | none => { c with entries := c.entries ++ [(p, e)] }

/-- Looks a routine up and counts the hit. -/
def get (kind : ε → Option β) (p : Fingerprint) : Job (FunctionCache ε) (Option (Published β)) := do
  let c ← Job.get
  match c.find? kind p with
  | none => return none
  | some r =>
    Job.set { c with hits := c.hits + 1 }
    Job.report .trace ("Cache hit for " ++ p.text)
    return some r

/-- Compiles a routine, counts it and publishes it.  The answer is what is stored afterwards. -/
def compileAndPublish (kind : ε → Option β) (store : β → ε) (p : Fingerprint)
    (compile : Fingerprint → Result β) : Job (FunctionCache ε) (Published β) := do
  match compile p with
  | .error e =>
    Job.report .error ("Could not compile " ++ p.text ++ ": " ++ e.message)
    throw e
  | .ok routine =>
    let c ← Job.get
    let counted := { c with compilations := c.compilations + 1 }
    Job.report .debug ("Compiled " ++ p.text)
    let published := counted.publish p ⟨counted.compilations, store routine⟩
    Job.set published
    match published.find? kind p with
    | some r => return r
    | none => throw .foreignRoutine

/-- The stored routine of a fingerprint, or a new one. -/
def getOrCompile (kind : ε → Option β) (store : β → ε) (p : Fingerprint)
    (compile : Fingerprint → Result β) : Job (FunctionCache ε) (Published β) := do
  match ← get kind p with
  | some r => return r
  | none => compileAndPublish kind store p compile

end FunctionCache

end RowBinding
