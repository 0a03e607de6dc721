import Std.Data.HashSet
import KeyRelay.Tools.Regex.Syntax

/-!
Finding what a regular expression matches. An expression becomes a program of small steps; a search
tries them in order of preference, visits a step at a place at most once, and keeps the longest of
the leftmost matches.
-/

namespace KeyRelay.Tools
open Shell

namespace Regex

inductive Step where
  | consume (negated : Bool) (items : List SetItem)
  | any
  | boundary (b : Boundary)
  /-- Goes on in one place and, if that fails, in the other. -/
  | fork (a b : Nat)
  | jump (a : Nat)
  /-- Remembers where a group begins or ends. -/
  | mark (slot : Nat)
  | again (n : Nat)
  | done
  deriving Repr, Inhabited

/-- The steps of an expression, from a place on. -/
def steps (at' : Nat) : Regex → List Step
  | .empty => []
  | .any => [.any]
  | .set negated items => [.consume negated items]
  | .boundary b => [.boundary b]
  | .again n => [.again n]
  | .append a b =>
    let first := steps at' a
    first ++ steps (at' + first.length) b
  | .either a b =>
    let first := steps (at' + 1) a
    let second := steps (at' + first.length + 2) b
    .fork (at' + 1) (at' + first.length + 2) :: first ++
      .jump (at' + first.length + 2 + second.length) :: second
  | .group n r =>
    .mark (2 * n) :: steps (at' + 1) r ++ [.mark (2 * n + 1)]
  | .repeated r least most =>
    let size := (steps at' r).length
    let needed := (List.range least).flatMap fun i => steps (at' + i * size) r
    let next := at' + least * size
    match most with
    | none => needed ++ .fork (next + 1) (next + size + 2) :: steps (next + 1) r ++ [.jump next]
    | some most =>
      let extra := most - least
      let ending := next + extra * (size + 1)
      needed ++ (List.range extra).flatMap fun i =>
        .fork (next + i * (size + 1) + 1) ending :: steps (next + i * (size + 1) + 1) r

/-- How texts are matched. -/
structure Matching where
  /-- Letters of either case match. -/
  fold : Bool := false
  /-- Lines inside the text have their starts and ends. -/
  lines : Bool := false
  /-- The text does not begin a line. -/
  inside : Bool := false
  deriving DecidableEq, Repr

structure Program where
  steps : Array Step
  slots : Nat
  hasAgain : Bool
  matching : Matching

def program (r : Regex) (m : Matching) : Program where
  steps := (steps 0 r ++ [Step.done]).toArray
  slots := 2 * (r.groups + 1)
  hasAgain := r.hasAgain
  matching := m

namespace Program

def holds (p : Program) (text : Array Char) (i : Nat) (b : Boundary) : Bool :=
  let word (j : Nat) : Bool := (text[j]?.map isWord).getD false
  let before := i ≠ 0 && word (i - 1)
  let after := word i
  match b with
  | .lineStart =>
    i = 0 && !p.matching.inside || p.matching.lines && i ≠ 0 && text[i - 1]? = some '\n'
  | .lineEnd => i = text.size || p.matching.lines && text[i]? = some '\n'
  | .textStart => i = 0 && !p.matching.inside
  | .textEnd => i = text.size
  | .word => before ≠ after
  | .noWord => before = after
  | .wordStart => !before && after
  | .wordEnd => before && !after
  | .freeBefore => !before
  | .freeAfter => !after

def accepts (p : Program) (negated : Bool) (items : List SetItem) (c : Char) : Bool :=
  let within (c : Char) : Bool := items.any (·.holds c)
  (within c || p.matching.fold && (within c.toLower || within c.toUpper)) ≠ negated

/-- Whether a text stands again at a place. -/
def repeats (p : Program) (text : Array Char) (start size i : Nat) : Bool :=
  (List.range size).all fun k =>
    match text[start + k]?, text[i + k]? with
    | some a, some b => a = b || p.matching.fold && a.toLower = b.toLower
    | _, _ => false

/-- A way through the program that is still to be tried. -/
structure Way where
  step : Nat
  place : Nat
  slots : Array (Option Nat)

abbrev Visited := Std.HashSet Nat

/-- Tries ways in order, and keeps the longest match so far. -/
def explore (p : Program) (text : Array Char) :
    Nat → Visited → List Way → Option (Nat × Array (Option Nat)) →
    Visited × Option (Nat × Array (Option Nat))
  | 0, seen, _, best => (seen, best)
  | _ + 1, seen, [], best => (seen, best)
  | fuel + 1, seen, w :: ways, best =>
    let key := w.step * (text.size + 1) + w.place
    if !p.hasAgain && seen.contains key then explore p text fuel seen ways best
    else
      let seen := if p.hasAgain then seen else seen.insert key
      let next (i : Nat) : Way := { w with step := w.step + 1, place := i }
      match p.steps[w.step]?.getD Step.done with
      | .done =>
        let better := match best with
          | none => true
          | some (e, _) => e < w.place
        let best := if better then some (w.place, w.slots) else best
        if w.place = text.size then (seen, best) else explore p text fuel seen ways best
      | .any =>
        match text[w.place]? with
        | some _ => explore p text fuel seen (next (w.place + 1) :: ways) best
        | none => explore p text fuel seen ways best
      | .consume negated items =>
        match text[w.place]? with
        | some c =>
          if p.accepts negated items c
            then explore p text fuel seen (next (w.place + 1) :: ways) best
          else explore p text fuel seen ways best
        | none => explore p text fuel seen ways best
      | .boundary b =>
        if p.holds text w.place b then explore p text fuel seen (next w.place :: ways) best
        else explore p text fuel seen ways best
      | .fork a b =>
        explore p text fuel seen ({ w with step := a } :: { w with step := b } :: ways) best
      | .jump a => explore p text fuel seen ({ w with step := a } :: ways) best
      | .mark slot =>
        explore p text fuel seen
          ({ w with step := w.step + 1, slots := w.slots.setIfInBounds slot (some w.place) } ::
            ways) best
      | .again n =>
        match (w.slots[2 * n]?).join, (w.slots[2 * n + 1]?).join with
        | some a, some z =>
          if p.repeats text a (z - a) w.place
            then explore p text fuel seen (next (w.place + (z - a)) :: ways) best
          else explore p text fuel seen ways best
        | _, _ => explore p text fuel seen ways best

/-- What is matched: where it begins and ends, and the places of the groups. -/
structure Found where
  start : Nat
  stop : Nat
  slots : Array (Option Nat)

/-- What a group matched. -/
def Found.group (f : Found) (text : Array Char) (n : Nat) : Octets :=
  if n = 0 then (text.extract f.start f.stop).toList
  else
    match (f.slots[2 * n]?).join, (f.slots[2 * n + 1]?).join with
    | some a, some z => (text.extract a z).toList
    | _, _ => []

/-- Steps that a search may take. -/
def limit (p : Program) (text : Array Char) : Nat :=
  if p.hasAgain then 2000000 else 3 * (p.steps.size + 1) * (text.size + 1) + 10

/-- The longest match that begins at a place. -/
def matchAt? (p : Program) (text : Array Char) (seen : Visited) (i : Nat) :
    Visited × Option Found :=
  let (seen, best) := explore p text (limit p text) seen [⟨0, i, Array.replicate p.slots none⟩] none
  (seen, best.map fun (stop, slots) => ⟨i, stop, slots⟩)

/-- The leftmost match from a place on. -/
def searchFrom (p : Program) (text : Array Char) : Nat → Visited → Nat → Option Found
  | 0, _, _ => none
  | fuel + 1, seen, i =>
    match p.matchAt? text seen i with
    | (_, some f) => some f
    | (seen, none) => searchFrom p text fuel seen (i + 1)

def search? (p : Program) (text : Array Char) (i : Nat) : Option Found :=
  if text.size < i then none else p.searchFrom text (text.size - i + 1) {} i

def isFound (p : Program) (text : Octets) : Bool :=
  (p.search? text.toArray 0).isSome

end Program

end Regex

end KeyRelay.Tools
