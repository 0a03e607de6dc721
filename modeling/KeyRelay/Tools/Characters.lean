import KeyRelay.Shell.Pattern
import KeyRelay.Tools.Flags

/-!
Characters for characters: sets of them are mapped to others, left out, or squeezed to one.
-/

namespace KeyRelay.Tools.Characters
open Shell Job

/-- A member of a set, in the order of the text. -/
inductive Member where
  | char (c : Char)
  | range (first last : Char)
  | named (k : CharClass)
  /-- A character so many times; none for as often as needed. -/
  | repeated (c : Char) (times : Option Nat)
  deriving DecidableEq, Repr

/-- What is wrong with a set. -/
inductive SetFault where
  | reversed (first last : Octets)
  | badClass (name : Octets)
  | noClass
  | noEquivalent
  | longEquivalent (name : Octets)
  | badCount (count : Octets)
  deriving DecidableEq, Repr

def SetFault.text (f : SetFault) : Octets :=
  match f with
  | .reversed a z =>
    "range-endpoints of '".toList ++ a ++ '-' :: z ++
      "' are in reverse collating sequence order".toList
  | .badClass name => "invalid character class ".toList ++ quoted name
  | .noClass => "missing character class name '[::]'".toList
  | .noEquivalent => "missing equivalence class character '[==]'".toList
  | .longEquivalent name => name ++ ": equivalence class operand must be a single character".toList
  | .badCount n => "invalid repeat count ".toList ++ quoted n ++ " in [c*n] construct".toList

/-- Characters with whether they were quoted. -/
abbrev Marked := List (Char × Bool)

/-- A text with its escapes resolved. -/
def unquoted : Nat → Octets → Marked
  | 0, _ => []
  | _ + 1, [] => []
  | _ + 1, ['\\'] => [('\\', true)]
  | fuel + 1, '\\' :: c :: rest =>
    let ds := ((c :: rest).take 3).takeWhile fun d => '0' ≤ d && d ≤ '7'
    if !ds.isEmpty then
      let ds := if 255 < Octets.valueOf 8 ds then ds.take 2 else ds
      (Octets.octet (Octets.valueOf 8 ds), true) :: unquoted fuel ((c :: rest).drop ds.length)
    else
      let d := match c with
        | 'a' => '\x07'
        | 'b' => '\x08'
        | 'f' => '\x0c'
        | 'n' => '\n'
        | 'r' => '\r'
        | 't' => '\t'
        | 'v' => '\x0b'
        | c => c
      (d, true) :: unquoted fuel rest
  | fuel + 1, c :: rest => (c, false) :: unquoted fuel rest

/-- A name between marks at the front. -/
def nameUpTo (mark : Char) : Marked → Option (Octets × Marked)
  | [] => none
  | (c, q) :: rest =>
    match rest with
    | (d, e) :: after =>
      if c = mark && !q && d = ']' && !e then some ([], after)
      else (nameUpTo mark rest).map fun (name, rest) => (c :: name, rest)
    | [] => none

/-- A repeated character at the front, the bracket taken. -/
def repeated? (cs : Marked) : Except SetFault (Option (Member × Marked)) :=
  match cs with
  | (c, _) :: ('*', false) :: rest =>
    let count := rest.takeWhile fun e => !(e.1 = ']' && !e.2)
    let ds := count.map (·.1)
    match rest.drop count.length with
    | [] => .ok none
    | _ :: after =>
      if ds.isEmpty then .ok (some (.repeated c none, after))
      else
        let base := if ds.head? = some '0' then 8 else 10
        if ds.all fun d => Octets.digitValue d < base then
          let n := Octets.valueOf base ds
          .ok (some (.repeated c (if n = 0 then none else some n), after))
        else .error (.badCount ds)
  | _ => .ok none

/-- A character as complaints show it. -/
def shown (c : Char) : Octets :=
  match c with
  | '\\' => ['\\', '\\']
  | '\n' => ['\\', 'n']
  | '\t' => ['\\', 't']
  | c =>
    if ' ' ≤ c && c ≤ '~' then [c] else '\\' :: Octets.fill false '0' 3 (Nat.toDigits 8 c.toNat)

def members : Nat → Marked → Except SetFault (List Member)
  | 0, _ => .ok []
  | _ + 1, [] => .ok []
  | fuel + 1, (c, q) :: rest => do
    let bracketed ← if c = '[' && !q then construct rest else pure none
    match bracketed with
    | some (m, rest) => return m :: (← members fuel rest)
    | none =>
      match rest with
      | ('-', false) :: (z, _) :: more =>
        if z < c then throw (.reversed (shown c) (shown z))
        return .range c z :: (← members fuel more)
      | rest => return .char c :: (← members fuel rest)
where
  construct (rest : Marked) : Except SetFault (Option (Member × Marked)) := do
    match rest with
    | (':', false) :: inside =>
      match nameUpTo ':' inside with
      | some ([], _) => throw .noClass
      | some (name, after) =>
        match CharClass.ofName? name with
        | some k => return some (.named k, after)
        | none =>
          match ← repeated? rest with
          | some r => return some r
          | none => throw (.badClass name)
      | none => repeated? rest
    | ('=', false) :: inside =>
      match nameUpTo '=' inside with
      | some ([], _) => throw .noEquivalent
      | some ([c], after) => return some (.char c, after)
      | some (name, _) =>
        match ← repeated? rest with
        | some r => return some r
        | none => throw (.longEquivalent name)
      | none => repeated? rest
    | rest => repeated? rest

def octets : List Char :=
  (List.range 256).map Char.ofNat

/-- All characters of a member; one that is repeated as needed stands there once. -/
def Member.expand (m : Member) : Octets :=
  match m with
  | .char c => [c]
  | .range a z => (List.range (z.toNat - a.toNat + 1)).map fun i => Char.ofNat (a.toNat + i)
  | .named k => octets.filter k.holds
  | .repeated c n => List.replicate (n.getD 1) c

def expandAll (ms : List Member) : Octets :=
  ms.flatMap Member.expand

/-- Characters for a mapping, where one member may be repeated as often as there is room. -/
def expandTo (size : Nat) (ms : List Member) : Octets :=
  let fixed := (ms.filter fun m => match m with | .repeated _ none => false | _ => true).flatMap
    Member.expand
  ms.flatMap fun m => match m with
    | .repeated c none => List.replicate (size - fixed.length) c
    | m => m.expand

def complement (cs : Octets) : Octets :=
  octets.filter fun c => !cs.contains c

/-- Squeezes runs of some characters to one. -/
def squeezed (table : Array Bool) : Option Char → Octets → Octets → Octets
  | _, done, [] => done.reverse
  | last, done, c :: cs =>
    if last = some c && table[c.toNat]?.getD false then squeezed table last done cs
    else squeezed table (some c) (c :: done) cs

/-- A set as a table by code. -/
def tableOf (cs : Octets) : Array Bool :=
  cs.foldl (fun t c => t.setIfInBounds c.toNat true) (Array.replicate 256 false)

/-- The place of a class of letters by case in a set, in characters before it. -/
def casePlaces : Nat → List Member → List Nat
  | _, [] => []
  | n, m :: more =>
    let rest := casePlaces (n + m.expand.length) more
    if m = .named .upper || m = .named .lower then n :: rest else rest

def rules : FlagRules where
  letters := "+AcCdst"
  names := [("complement", "c"), ("delete", "d"), ("squeeze-repeats", "s"), ("truncate-set1", "t")]
  operandEnds := true

def readSet (text : Octets) : Job (List Member) :=
  match members (text.length + 1) (unquoted (text.length + 1) text) with
  | .ok ms => return ms
  | .error e => fail 1 e.text

/-- Faults of the sets of a mapping. -/
def checkMapping (complemented truncating : Bool) (first second : List Member) (from' : Octets) :
    Job Unit := do
  if !truncating && (expandTo from'.length second).isEmpty && !from'.isEmpty then
    fail 1 "when not truncating set1, string2 must be non-empty".toList
  let isClass (m : Member) : Bool := match m with | .named _ => true | _ => false
  let isCase (m : Member) : Bool := m = .named .upper || m = .named .lower
  if second.any fun m => isClass m && !isCase m then
    fail 1 ("when translating, the only character classes that may appear in\n".toList ++
      "string2 are 'upper' and 'lower'".toList)
  if complemented && first.any isClass && (expandTo from'.length second).eraseDups.length ≠ 1 then
    fail 1 ("when translating with complemented character classes,\n".toList ++
      "string2 must map all characters in the domain to one".toList)
  if !complemented && second.any isCase then
    if !(casePlaces 0 second).all (casePlaces 0 first).contains then
      fail 1 "misaligned [:upper:] and/or [:lower:] construct".toList

def tr : Job Unit := do
  let f ← flags rules 1
  let delete := f.has "d"
  let squeeze := f.has "s"
  let complemented := f.has "c" || f.has "C"
  let two := if delete then squeeze else true
  let least := if delete = squeeze then 2 else 1
  match f.operands with
  | [] => missingOperand 1
  | [a] =>
    if least = 2 then
      warn ("missing operand after ".toList ++ quoted a)
      errorText (if squeeze then
        "Two strings must be given when both deleting and squeezing repeats.\n".toList
        else "Two strings must be given when translating.\n".toList)
      errorText ("Try '".toList ++ (← call).name ++ " --help' for more information.\n".toList)
      exit 1
  | _ :: b :: more =>
    if !two then
      warn ("extra operand ".toList ++ quoted b)
      if more.isEmpty then
        errorText "Only one string may be given when deleting without squeezing repeats.\n".toList
      errorText ("Try '".toList ++ (← call).name ++ " --help' for more information.\n".toList)
      exit 1
    if let c :: _ := more then extraOperand 1 c
  let first ← readSet (f.operands.headD [])
  if first.any fun m => match m with | .repeated _ none => true | _ => false then
    fail 1 "the [c*] repeat construct may not appear in string1".toList
  let set1 := expandAll first
  let from' := if complemented then complement set1 else set1
  match f.operands[1]? with
  | none =>
    let text ← takeInput
    let table := tableOf from'
    if delete then out (text.filter fun c => !(table[c.toNat]?.getD false))
      else out (squeezed table none [] text)
  | some b =>
    let second ← readSet b
    if 1 < (second.filter fun m => match m with | .repeated _ none => true | _ => false).length then
      fail 1 "only one [c*] repeat construct may appear in string2".toList
    if delete then
      let text ← takeInput
      let table := tableOf from'
      out (squeezed (tableOf (expandAll second)) none [] (text.filter fun c =>
        !(table[c.toNat]?.getD false)))
    else
      checkMapping complemented (f.has "t") first second from'
      let into := expandTo from'.length second
      let pairs :=
        if f.has "t" then from'.zip into
        else
          from'.zip (into ++ List.replicate (from'.length - into.length) (into.getLast?.getD 'x'))
      let table := pairs.foldl (fun (t : Array Char) (a, z) =>
        t.setIfInBounds a.toNat z) octets.toArray
      let text ← takeInput
      let mapped := text.map fun c => table[c.toNat]?.getD c
      out (if squeeze then squeezed (tableOf (expandTo from'.length second)) none [] mapped
        else mapped)

end KeyRelay.Tools.Characters
