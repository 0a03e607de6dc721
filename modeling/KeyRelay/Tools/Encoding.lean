import KeyRelay.Base64
import KeyRelay.Tools.Digest

/-!
Octets as printable text: in base sixty-four, and dumped as numbers or characters.
-/

namespace KeyRelay.Tools.Encoding
open Shell Job

/-! ### Base sixty-four -/

def rules : FlagRules where
  letters := "dw:i"
  names := [("decode", "d"), ("wrap", "w:"), ("ignore-garbage", "i")]

/-- What groups of four symbols stand for, and whether all of them are sound. -/
def decoded : Nat → List UInt8 → Octets → List UInt8 × Bool
  | 0, done, _ => (done.reverse, true)
  | _ + 1, done, [] => (done.reverse, true)
  | fuel + 1, done, cs =>
    let value? (i : Nat) : Option Nat := (cs[i]?).bind fun c => Base64.value? (UInt8.ofNat c.toNat)
    let byte (n : Nat) : UInt8 := UInt8.ofNat (n % 256)
    match value? 0, value? 1 with
    | some a, some b =>
      let done := byte (a * 4 + b / 16) :: done
      match value? 2 with
      | some c =>
        let done := byte (b * 16 + c / 4) :: done
        match value? 3 with
        | some d => decoded fuel (byte (c * 64 + d) :: done) (cs.drop 4)
        | none => if cs[3]? = some '=' then decoded fuel done (cs.drop 4) else (done.reverse, false)
      | none =>
        if cs[2]? = some '=' && cs[3]? = some '=' then decoded fuel done (cs.drop 4)
          else (done.reverse, false)
    | _, _ => (done.reverse, false)

def base64 : Job Unit := do
  let f ← flags rules 1
  if let _ :: extra :: _ := f.operands then extraOperand 1 extra
  let width ← match f.value? "w" with
    | none => pure 76
    | some v =>
      match Octets.nat? v with
      | some n => pure n
      | none => fail 1 ("invalid wrap size: ".toList ++ quoted v)
  let name := f.operands.headD ['-']
  let text ← match ← openOperand name Files.muchOf with
    | .ok cs => pure cs
    | .error .isADirectory => fail 1 "read error: Is a directory".toList
    | .error e => fail 1 (name ++ [':', ' '] ++ e.octets)
  if f.has "d" then
    let kept := text.filter fun c =>
      c ≠ '\n' && (!f.has "i" || c = '=' || (Base64.value? (UInt8.ofNat c.toNat)).isSome)
    let (bytes, sound) := decoded (kept.length + 1) [] kept
    out (Octets.ofBytes bytes)
    if !sound then fail 1 "invalid input".toList
  else
    let digits := Octets.ofBytes (Base64.encode (Octets.toBytes text))
    if width = 0 then out digits
    else out (Octets.ofLines (Digest.groupsOf width (digits.length + 1) digits))

/-! ### Dumps -/

inductive Form where
  | named
  | char
  | signed (size : Nat)
  | unsigned (size : Nat)
  | octal (size : Nat)
  | hex (size : Nat)
  deriving DecidableEq, Repr

namespace Form

def size (f : Form) : Nat :=
  match f with
  | .named | .char => 1
  | .signed n | .unsigned n | .octal n | .hex n => n

/-- Characters that the widest value takes. -/
def width (f : Form) : Nat :=
  match f with
  | .named | .char => 3
  | .signed n => if n = 1 then 4 else if n = 2 then 6 else if n = 4 then 11 else 20
  | .unsigned n => if n = 1 then 3 else if n = 2 then 5 else if n = 4 then 10 else 20
  | .octal n => if n = 1 then 3 else if n = 2 then 6 else if n = 4 then 11 else 22
  | .hex n => 2 * n

def names : List String :=
  ["nul", "soh", "stx", "etx", "eot", "enq", "ack", "bel", "bs", "ht", "nl", "vt", "ff", "cr", "so",
    "si", "dle", "dc1", "dc2", "dc3", "dc4", "nak", "syn", "etb", "can", "em", "sub", "esc", "fs",
    "gs", "rs", "us", "sp"]

/-- The text of a value, the least octet first. -/
def text (f : Form) (cs : Octets) : Octets :=
  let n := cs.reverse.foldl (fun n c => n * 256 + c.toNat) 0
  let c := cs.headD '\x00'
  match f with
  | .named =>
    let n := n % 128
    match names[n]? with
    | some s => s.toList
    | none => if n = 127 then "del".toList else [Char.ofNat n]
  | .char =>
    match c with
    | '\x00' => ['\\', '0']
    | '\x07' => ['\\', 'a']
    | '\x08' => ['\\', 'b']
    | '\x0c' => ['\\', 'f']
    | '\n' => ['\\', 'n']
    | '\r' => ['\\', 'r']
    | '\t' => ['\\', 't']
    | '\x0b' => ['\\', 'v']
    | c => if ' ' ≤ c && c ≤ '~' then [c] else Octets.fill false '0' 3 (Nat.toDigits 8 c.toNat)
  | .signed s =>
    let top := Nat.pow 256 s
    if top / 2 ≤ n then '-' :: Octets.ofNat (top - n) else Octets.ofNat n
  | .unsigned _ => Octets.ofNat n
  | .octal _ => Octets.fill false '0' f.width (Nat.toDigits 8 n)
  | .hex _ => Octets.fill false '0' f.width (Nat.toDigits 16 n)

/-- Forms of a text that names several. -/
def read (whole : Octets) : Nat → Octets → Except Octets (List (Form × Bool))
  | 0, _ => .ok []
  | _ + 1, [] => .ok []
  | fuel + 1, c :: rest => do
    let sized (make : Nat → Form) : Except Octets (Form × Octets) :=
      match rest with
      | 'C' :: more => .ok (make 1, more)
      | 'S' :: more => .ok (make 2, more)
      | 'I' :: more => .ok (make 4, more)
      | 'L' :: more => .ok (make 8, more)
      | _ =>
        let ds := rest.takeWhile Char.isDigit
        if ds.isEmpty then .ok (make 4, rest)
        else
          let n := Octets.valueOf 10 ds
          if [1, 2, 4, 8].contains n then .ok (make n, rest.drop ds.length)
          else .error ("invalid type string ".toList ++ quoted whole ++
            ";\nthis system doesn't provide a ".toList ++
            ds ++ "-byte integral type".toList)
    let (form, rest) ← match c with
      | 'a' => .ok (Form.named, rest)
      | 'c' => .ok (Form.char, rest)
      | 'd' => sized .signed
      | 'u' => sized .unsigned
      | 'o' => sized .octal
      | 'x' => sized .hex
      | c =>
        .error ("invalid character ".toList ++ quoted [c] ++ " in type string ".toList ++
          quoted whole)
    let (shown, rest) := match rest with
      | 'z' :: more => (true, more)
      | rest => (false, rest)
    return (form, shown) :: (← read whole fuel rest)

end Form

def dumpRules : FlagRules where
  letters := "A:aBbcDdeFfHhIij:LlN:OoS:st:vw::Xx"
  names := [("skip-bytes", "j:"), ("address-radix", "A:"), ("read-bytes", "N:"), ("format", "t:"),
    ("output-duplicates", "v"), ("strings", "S::"), ("traditional", "traditional"),
    ("width", "w::"), ("endian", "endian:")]

/-- The forms that an option of one letter stands for. -/
def letterForm? (key : String) : Option Form :=
  match key with
  | "a" => some .named
  | "b" => some (.octal 1)
  | "c" => some .char
  | "d" => some (.unsigned 2)
  | "i" => some (.signed 4)
  | "l" => some (.signed 8)
  | "o" => some (.octal 2)
  | "s" => some (.signed 2)
  | "x" => some (.hex 2)
  | _ => none

/-- A block as one line of a form; all forms share the width of the widest. -/
def blockLine (perBlock widest : Nat) (form : Form) (shown : Bool) (cs : Octets) : Octets :=
  let fields := perBlock / form.size
  let own := fields * (form.width + 1)
  let pad := widest - own
  let values := Digest.groupsOf form.size (cs.length + 1) cs
  let texts := values.zipIdx.map fun (v, i) =>
    let left := pad * (fields - i) / fields - pad * (fields - i - 1) / fields
    Octets.fill false ' ' (form.width + 1 + left) (form.text v)
  texts.flatten ++
    if shown then
      let missing := fields - values.length
      let gap := missing * (form.width + 1) + pad * missing / fields
      List.replicate gap ' ' ++ "  >".toList ++
        cs.map (fun c => if ' ' ≤ c && c ≤ '~' then c else '.') ++ ['<']
    else []

/-- Blocks with their addresses; one that is like the one before it may be left out. -/
def dumpBlocks (address : Nat → Octets) (indent perBlock widest : Nat) (forms : List (Form × Bool))
    (all : Bool) :
    Nat → Option Octets → Bool → List Octets → List Octets
  | at', _, _, [] => if indent = 0 then [] else [address at' ++ ['\n']]
  | at', last, starred, b :: more =>
    if !all && last = some b && b.length = perBlock && !more.isEmpty then
      (if starred then [] else ['*', '\n']) ::
        dumpBlocks address indent perBlock widest forms all (at' + b.length) last true more
    else
      let ls := forms.zipIdx.flatMap fun ((form, shown), i) =>
        (if i = 0 then address at' else List.replicate indent ' ') ++
          blockLine perBlock widest form shown b ++ ['\n']
      ls :: dumpBlocks address indent perBlock widest forms all (at' + b.length) (some b) false more

def od : Job Unit := do
  let f ← flags dumpRules 1
  let forms ← f.given.filterMapM fun (key, value) => do
    if key = "t" then
      match Form.read value (value.length + 1) value with
      | .ok fs => return some fs
      | .error e => fail 1 e
    else return (letterForm? key).map fun form => [(form, false)]
  let forms := if forms.isEmpty then [(Form.octal 2, false)] else forms.flatten
  let base ← match f.value? "A" with
    | none | some ['o'] => pure (some (8, 7))
    | some ['d'] => pure (some (10, 7))
    | some ['x'] => pure (some (16, 6))
    | some ['n'] => pure none
    | some v =>
      fail 1 ("invalid output address radix ".toList ++ quoted v ++
        "; it must be one character from [doxn]".toList)
  let amount (key : String) : Job (Option Nat) :=
    match f.value? key with
    | none => return none
    | some v =>
      match Octets.nat? v with
      | some n => return some n
      | none => fail 1 ("invalid -".toList ++ key.toList ++ " argument ".toList ++ quoted v)
  let skip := (← amount "j").getD 0
  let most ← amount "N"
  let perBlock := match f.value? "w" with
    | none => 16
    | some [] => 32
    | some v => max ((Octets.nat? v).getD 16) 1
  let parts ← (if f.operands.isEmpty then [['-']] else f.operands).mapM fun n => do
    match ← openOperand n ((most.getD Files.muchOf) + skip) with
    | .ok cs => return cs
    | .error .isADirectory =>
      complain 1 (n ++ ": read error: Is a directory".toList)
      return []
    | .error e =>
      complain 1 (n ++ [':', ' '] ++ e.octets)
      return []
  if (← get).status ≠ 0 && parts.all List.isEmpty then return ()
  let text := parts.flatten.drop skip
  let text := most.elim text text.take
  let widest := forms.foldl (fun m (form, _) => max m (perBlock / form.size * (form.width + 1))) 0
  let address (n : Nat) : Octets := match base with
    | some (b, size) => Octets.fill false '0' size (Nat.toDigits b n)
    | none => []
  let indent := match base with
    | some (_, size) => size
    | none => 0
  let blocks := Digest.groupsOf perBlock (text.length + 1) text
  out (dumpBlocks address indent perBlock widest forms (f.has "v") skip none false blocks).flatten

end KeyRelay.Tools.Encoding
