import ZigDecls.Run.Basic
import ZigDecls.Sketch.Collect
import ZigDecls.Sketch.Declaration

/-!
# Stages

The steps of a run one by one, over a state in which each part may still be missing. A stage reads
the parts it needs and gives the parts it has made; a stage that fails gives none.
-/

namespace ZigDecls

structure State where
  elements : Option (List Sketch.Element)
  records : Option (List Sketch.Record)
  rejected : Option (List Sketch.Rejection)
  /-- How many types still have no rendering. -/
  unmapped : Option Nat
  settings : Option Settings

inductive Stage
  | collect
  | review
  | declare
  | sumUp
deriving DecidableEq, Repr

inductive Update
  | collected (records : List Record) (rejected : List Rejection) (candidates : Nat)
  | reviewed (records : List Sketch.Record) (rejected : List Sketch.Rejection)
  | declared (code : Code)
  | summed (summary : Summary)
deriving DecidableEq, Repr

def State.merge (state : State) : Update → State
  | .collected records rejected _ =>
    { state with records := some (records.map Sketch.ofRecord), rejected := some (rejected.map Sketch.ofRejection) }
  | .reviewed records rejected => { state with records := some records, rejected := some rejected }
  | .declared code => { state with unmapped := some code.unmapped.length }
  | .summed _ => state

namespace Stage
open Sketch (part)

def runCollect (state : State) : List Event × Except Failure Update :=
  match part "elements" state.elements with
  | .error f => ([], .error f)
  | .ok elements =>
    match Sketch.collect elements with
    | (c, some f) => (c.log, .error f)
    | (c, none) => (c.events, .ok (.collected c.accepted c.rejected c.candidates))

def runReview (state : State) : List Event × Except Failure Update :=
  match part "structs" state.records >>= Sketch.screen with
  | .error f => ([], .error f)
  | .ok s =>
    (screenEvents s.rejected.length,
      (.reviewed s.good ·) <$> Sketch.sortRejections (state.rejected.getD [] ++ s.rejected.map Sketch.ofRejection))

def runDeclare (state : State) : List Event × Except Failure Update :=
  match part "structs" state.records with
  | .error f => ([], .error f)
  | .ok records =>
    match Sketch.declareAll (state.settings.getD .standard) [] records with
    | (ledger, .error f) => (ledger.map .unmapped, .error f)
    | (ledger, .ok blocks) =>
      let code : Code := ⟨joinBlocks blocks, ledger⟩
      (code.events blocks.length, .ok (.declared code))

/-- Only the rejections are listed before the names are asked for. -/
def runSumUp (state : State) : List Event × Except Failure Update :=
  match (state.rejected.getD []).mapM Sketch.Rejection.complete with
  | .error f => ([], .error f)
  | .ok rejected =>
    match (state.records.getD []).mapM fun r => part "type_name" r.typeName with
    | .error f => (ignoredEvents rejected, .error f)
    | .ok names =>
      let unmapped := state.unmapped.getD 0
      (summaryEvents names rejected unmapped, .ok (.summed (summary names rejected unmapped)))

def run (state : State) : Stage → List Event × Except Failure Update
  | collect => runCollect state
  | review => runReview state
  | declare => runDeclare state
  | sumUp => runSumUp state

end Stage

/-- One entry per stage: what it logged, and what it gave or why it failed. -/
def runStages (state : State) : List Stage → List (Stage × List Event × Except Failure Update)
  | [] => []
  | stage :: stages =>
    let (log, result) := stage.run state
    let next := match result with
      | .ok update => state.merge update
      | .error _ => state
    (stage, log, result) :: runStages next stages

end ZigDecls
