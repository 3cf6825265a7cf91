import Dashboard.Program.Plan
/-!
# What a run of the program leaves

* `Program.Outcome` — what was printed, and with what the program ended.
* `Program.run` — a whole run whose input is all there when it begins.
-/

namespace Dashboard.Program

/-- What a run of the program leaves. -/
structure Outcome where
  exitCode : Nat := 0
  /-- What was printed as output. -/
  output : String := ""
  /-- What was told beside the output. -/
  told : String := ""
  deriving DecidableEq, Repr

namespace Outcome

/-- The outcome of a command line that asks for nothing that can be done. -/
def ofUsage : Usage → Outcome
  | .help => { output := helpText }
  | u => { exitCode := u.exitCode, told := u.message }

/-- The outcome of a run that failed. -/
def ofFault (f : Fault) : Outcome := { exitCode := 1, told := "Error: " ++ f.message ++ "\n" }

/-- The outcome of a run that printed frames or failed. -/
def ofFrames : Except Fault (List Frame) → Outcome
  | .ok frames => { output := Frame.lines frames }
  | .error f => ofFault f

end Outcome

variable {m : Type → Type} [Monad m] [Machine m]

/-- Carries out a plan. -/
def Plan.run (input : List UInt8) : Plan → m Outcome
  | .tell text => return { told := text }
  | .once settings tab => do
    let act : ReaderT Bus m (Except Fault Frame) := Program.once settings tab
    return .ofFrames ((← act.run (Bus.ofSettings settings)).map ([·]))
  | .serve settings active => do
    let act : ReaderT Bus m (Except Fault (List Frame)) := Program.serve settings active input
    return .ofFrames (← act.run (Bus.ofSettings settings))

/-- A whole run. -/
def run (s : Surroundings) (words : List String) (input : List UInt8) : m Outcome := do
  match Arguments.parse words with
  | .error u => return .ofUsage u
  | .ok a =>
    match ← plan s a with
    | .error f => return .ofFault f
    | .ok p => p.run input

end Dashboard.Program
