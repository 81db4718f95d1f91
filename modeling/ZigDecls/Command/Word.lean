import ZigDecls.Command.Usage
import ZigDecls.Text.Classes

/-!
# Words of the command line

Each word is looked at by itself, before any of them takes effect. A long option may be written by
any beginning that no other spelling shares, and with its value behind `=`; a short one may have
its value right behind it or behind `=`. A word that looks like a negative number or holds a space
is no option unless it is spelled like one, and after `--` no word is.
-/

namespace ZigDecls.Command
open Text

/-- What is written in the same word as its option: behind a long spelling, or behind a short one,
where it may also be more short options. -/
inductive Attached
  | toLong (value : CodePoints)
  | toShort (tail : CodePoints)
deriving DecidableEq, Repr

inductive Word
  | plain (s : CodePoints)
  | option (opt : Opt) (attached : Option Attached)
  | unknown (s : CodePoints)
  | separator
deriving DecidableEq, Repr

def isDigit : CodePoint → Bool
  | .char c => isDecimal c
  | .surrogate _ => false

/-- A minus and decimal digits, with at most one point that has a digit behind it. One line feed at
the end does not matter. -/
def looksNegative : CodePoints → Bool
  | .char '-' :: cs =>
    let cs := if cs.getLast? = some (.char '\n') then cs.dropLast else cs
    let after := cs.dropWhile isDigit
    match after with
    | [] => !cs.isEmpty
    | .char '.' :: fraction => !fraction.isEmpty && fraction.all isDigit
    | _ => false
  | _ => false

/-- The part before the first `=`, and the value behind it. -/
def splitEquals (cs : CodePoints) : CodePoints × Option Attached :=
  match cs.dropWhile (· ≠ .char '=') with
  | [] => (cs, none)
  | _ :: value =>
    let name := cs.takeWhile (· ≠ .char '=')
    (name, some (if ("--" : CodePoints).isPrefixOf name then .toLong value else .toShort value))

/-- The options that a word which spells none of them could stand for. -/
def candidates (cs : CodePoints) : List (String × Opt × Option Attached) :=
  match cs with
  | .char '-' :: .char '-' :: _ =>
    let (beginning, attached) := splitEquals cs
    (Opt.startingWith beginning).map fun (spelling, opt) => (spelling, opt, attached)
  | .char '-' :: letter :: value =>
    ((Opt.spelled? [.char '-', letter]).map fun (spelling, opt) => (spelling, opt, some (.toShort value))).toList
  | _ => []

def wordOf (s : CodePoints) : Except Misuse Word :=
  match s with
  | .char '-' :: _ :: _ =>
    match Opt.spelled? s with
    | some (_, opt) => .ok (.option opt none)
    | none =>
      match splitEquals s with
      | (name, some attached) =>
        match Opt.spelled? name with
        | some (_, opt) => .ok (.option opt (some attached))
        | none => byBeginning
      | (_, none) => byBeginning
  | _ => .ok (.plain s)
where
  byBeginning : Except Misuse Word :=
    match candidates s with
    | [] => .ok (if looksNegative s || s.contains (.char ' ') then .plain s else .unknown s)
    | [(_, opt, attached)] => .ok (.option opt attached)
    | several => .error (.ambiguous s (several.map (·.1)))

def wordsOf : List CodePoints → Except Misuse (List Word)
  | [] => .ok []
  | arg :: args =>
    if arg = "--" then .ok (.separator :: args.map .plain)
    else do
      let word ← wordOf arg
      return word :: (← wordsOf args)

end ZigDecls.Command
