import ZigDecls.Command.Request
import ZigDecls.Command.Usage

/-!
# The command

A run of the command, from its arguments to what it leaves behind: how it ended, what it printed,
the file tree and the log. Nothing is written before all that can fail on the way to the code has
succeeded; what can fail later is to make the directories, to open the file, and to encode the code.

Some limits are drawn. Only arguments may hold surrogates: a variable that does is refused when the settings
are read, and pages and their items have none. Standard output takes every text, also one that its
encoding has no bytes for. Everybody may read and write every file and directory, and there are no links.
-/

namespace ZigDecls.Command
open Text

/-- All that a run of the command depends on. -/
structure Invocation where
  args : List CodePoints
  env : Environment
  tree : Tree
  /-- What the layout analysis finds. -/
  items : List Item

inductive Ending
  | helped
  | misused (m : Misuse)
  | exited (code : Nat)
  /-- What was asked for could not be looked up or written. -/
  | broken (failure : Failure)
deriving DecidableEq, Repr

structure Outcome where
  ending : Ending
  stdout : CodePoints
  tree : Tree
  /-- What the layout analysis was handed, if it was reached. -/
  stream : Option Stream
  log : List Event
deriving DecidableEq, Repr

/-- The settings in force: overrides before the environment, and that before the standard. -/
def Request.settings (r : Request) (env : Environment) : Except (List Problem) Settings :=
  r.overrides.settings env

/-- The code that the work on the page has come to. -/
def Request.code (r : Request) (settings : Settings) (product : Product) : CodePoints :=
  r.overrides.code settings product.records

/-- The tree with the code in the file at the path, and in the directories it needs. Where it fails, what
was done on the way stays done: the directories that could be made are there, and a file that could be
opened is empty. -/
def deliver (tree : Tree) (output code : CodePoints) : Except (Tree × Failure) Tree := do
  let path := Path.ofPoints output
  let tree ← tree.makeDirectories path.parent
  tree.writeFile path code

/-- A run on a request; the log holds all events. -/
def Request.run (r : Request) (i : Invocation) : Outcome :=
  let path := (Path.ofPoints r.path).text
  let stopped (log : List Event) (stream : Option Stream) : Outcome := ⟨.exited 1, [], i.tree, stream, log⟩
  match i.tree.find (.ofPoints r.path) with
  | .error f => ⟨.broken f, [], i.tree, none, []⟩
  | .ok none => stopped [.fileNotFound path.shown] none
  | .ok (some _) =>
    match r.settings i.env with
    | .error problems => stopped [.invalidSettings (problemsMessage problems)] none
    | .ok settings =>
      let run := Run.onPage i.tree path r.region i.items (produceBy (r.overrides.declare settings))
      let log := .extracting path.shown :: run.log
      match run.result with
      | .error f => stopped (log ++ [.failed f]) run.stream
      | .ok product =>
        let code := r.code settings product
        match r.output with
        | none => ⟨.broken .noOutput, [], i.tree, run.stream, log⟩
        | some output =>
          let done : List Event := [.done product.summary.accepted product.summary.rejected output.shown]
          if output = "-" then ⟨.exited 0, code, i.tree, run.stream, log ++ done⟩
          else
            match deliver i.tree output code with
            | .ok tree => ⟨.exited 0, [], tree, run.stream, log ++ done⟩
            | .error (tree, f) => ⟨.broken f, [], tree, run.stream, log⟩

/-- A run of the command; the log holds the events that the level asked for shows. -/
def run (i : Invocation) : Outcome :=
  match Request.ofArgs i.args with
  | .error .help => ⟨.helped, helpText, i.tree, none, []⟩
  | .error (.misuse m) => ⟨.misused m, [], i.tree, none, []⟩
  | .ok r =>
    match r.level with
    | none => ⟨.broken .noLevel, [], i.tree, none, []⟩
    | some level =>
      let o := r.run i
      { o with log := visibleAt level o.log }

/-- The status the command leaves with. -/
def Ending.status : Ending → Nat
  | helped => 0
  | misused _ => 2
  | exited code => code
  | broken _ => 1

end ZigDecls.Command
