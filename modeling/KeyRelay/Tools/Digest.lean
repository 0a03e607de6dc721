import KeyRelay.Tools.Flags

/-!
Digests of texts: numbers of a fixed size that differ where texts do. All of them work on blocks of
words; what their tables hold are roots of the first primes, and sines.
-/

namespace KeyRelay.Tools.Digest
open Shell Job

/-! ### Tables -/

/-- The greatest number whose power with an exponent is not above a bound, found bit by bit. -/
def root (exponent bound : Nat) : Nat → Nat → Nat
  | 0, found => found
  | bits + 1, found =>
    let next := found + Nat.pow 2 bits
    root exponent bound bits (if Nat.pow next exponent ≤ bound then next else found)

/-- So many primes, newest first. -/
def primes : Nat → Nat → List Nat → List Nat
  | 0, _, found => found
  | fuel + 1, n, found =>
    if found.any fun p => n % p = 0 then primes fuel (n + 1) found
      else primes fuel (n + 1) (n :: found)

def firstPrimes : List Nat :=
  ((primes 450 2 []).reverse).take 80

/-- Bits behind the point of the square roots of primes. -/
def squareRoots (bits : Nat) : List Nat :=
  firstPrimes.map fun p => root 2 (p * Nat.pow 4 bits) (bits + 5) 0 % Nat.pow 2 bits

/-- Bits behind the point of the cube roots of primes. -/
def cubeRoots (bits : Nat) : List Nat :=
  firstPrimes.map fun p => root 3 (p * Nat.pow 8 bits) (bits + 4) 0 % Nat.pow 2 bits

/-- The sine of a whole number from one to sixty-four as a fraction of 2^32, without its sign. -/
def sine (i : Nat) : Nat :=
  (Float.abs (Float.sin (Float.ofNat i)) * 4294967296.0).floor.toUInt64.toNat

/-! ### Blocks -/

/-- A text filled to whole blocks: a one, zeros, and its length in bits. -/
def padded (block lengthSize : Nat) (bigEndian : Bool) (bs : List UInt8) : List UInt8 :=
  let n := bs.length
  let gap := (2 * block - (n + 1 + lengthSize) % block) % block
  let length := (List.range lengthSize).map fun i => UInt8.ofNat (n * 8 / Nat.pow 256 i % 256)
  bs ++ 128 :: List.replicate gap 0 ++ if bigEndian then length.reverse else length

def groupsOf {α : Type} (size : Nat) : Nat → List α → List (List α)
  | 0, _ => []
  | _ + 1, [] => []
  | fuel + 1, xs => xs.take size :: groupsOf size fuel (xs.drop size)

/-- The number that octets are, the greatest first. -/
def number (bs : List UInt8) : Nat :=
  bs.foldl (fun n b => n * 256 + b.toNat) 0

def words32 (bigEndian : Bool) (bs : List UInt8) : Array UInt32 :=
  ((groupsOf 4 (bs.length + 1) bs).map fun g =>
    UInt32.ofNat (number (if bigEndian then g else g.reverse))).toArray

def words64 (bs : List UInt8) : Array UInt64 :=
  ((groupsOf 8 (bs.length + 1) bs).map fun g => UInt64.ofNat (number g)).toArray

def turnLeft (x : UInt32) (n : UInt32) : UInt32 :=
  (x <<< n) ||| (x >>> (32 - n))

def turnRight (x : UInt32) (n : UInt32) : UInt32 :=
  (x >>> n) ||| (x <<< (32 - n))

def turnRight64 (x : UInt64) (n : UInt64) : UInt64 :=
  (x >>> n) ||| (x <<< (64 - n))

/-- Digits in base sixteen of words of so many octets. -/
def hex (size : Nat) (n : Nat) : Octets :=
  Octets.fill false '0' (2 * size) (Nat.toDigits 16 n)

/-! ### Digests -/

def md5Turns : Array UInt32 :=
  #[7, 12, 17, 22, 5, 9, 14, 20, 4, 11, 16, 23, 6, 10, 15, 21]

def sines : Array UInt32 :=
  ((List.range 64).map fun i => UInt32.ofNat (sine (i + 1))).toArray

def md5Block (s : UInt32 × UInt32 × UInt32 × UInt32) (m : Array UInt32) :
    UInt32 × UInt32 × UInt32 × UInt32 :=
  let (a, b, c, d) := (List.range 64).foldl (fun (a, b, c, d) i =>
    let (f, g) : UInt32 × Nat :=
      if i < 16 then ((b &&& c) ||| (~~~b &&& d), i)
      else if i < 32 then ((d &&& b) ||| (~~~d &&& c), (5 * i + 1) % 16)
      else if i < 48 then (b ^^^ c ^^^ d, (3 * i + 5) % 16)
      else (c ^^^ (b ||| ~~~d), 7 * i % 16)
    let x := a + f + sines[i]! + m[g]!
    (d, b + turnLeft x md5Turns[i / 16 * 4 + i % 4]!, b, c)) s
  (s.1 + a, s.2.1 + b, s.2.2.1 + c, s.2.2.2 + d)

def md5 (bs : List UInt8) : Octets :=
  let blocks := groupsOf 64 (bs.length / 64 + 3) (padded 64 8 false bs)
  let (a, b, c, d) := blocks.foldl (fun s g => md5Block s (words32 false g))
    ((0x67452301, 0xefcdab89, 0x98badcfe, 0x10325476) : UInt32 × UInt32 × UInt32 × UInt32)
  let swapped (x : UInt32) : Octets :=
    (List.range 4).flatMap fun i => hex 1 (x.toNat / Nat.pow 256 i % 256)
  [a, b, c, d].flatMap swapped

/-- The words of a block, and those made of them. -/
def sha1Schedule (m : Array UInt32) : Array UInt32 :=
  (List.range 64).foldl (fun w i =>
    w.push (turnLeft (w[i + 13]! ^^^ w[i + 8]! ^^^ w[i + 2]! ^^^ w[i]!) 1)) m

def sha1Block (s : Array UInt32) (m : Array UInt32) : Array UInt32 :=
  let w := sha1Schedule m
  let t := (List.range 80).foldl (fun (t : Array UInt32) i =>
    let a := t[0]!
    let b := t[1]!
    let c := t[2]!
    let d := t[3]!
    let e := t[4]!
    let (f, k) : UInt32 × UInt32 :=
      if i < 20 then ((b &&& c) ||| (~~~b &&& d), 0x5a827999)
      else if i < 40 then (b ^^^ c ^^^ d, 0x6ed9eba1)
      else if i < 60 then ((b &&& c) ||| (b &&& d) ||| (c &&& d), 0x8f1bbcdc)
      else (b ^^^ c ^^^ d, 0xca62c1d6)
    #[turnLeft a 5 + f + e + k + w[i]!, a, turnLeft b 30, c, d]) s
  (s.zip t).map fun (x, y) => x + y

def sha1 (bs : List UInt8) : Octets :=
  let blocks := groupsOf 64 (bs.length / 64 + 3) (padded 64 8 true bs)
  let s := blocks.foldl (fun s g => sha1Block s (words32 true g))
    (#[0x67452301, 0xefcdab89, 0x98badcfe, 0x10325476, 0xc3d2e1f0] : Array UInt32)
  s.toList.flatMap fun x => hex 4 x.toNat

def roots32 : Array UInt32 :=
  ((cubeRoots 32).map UInt32.ofNat).toArray

def sha256Block (k s m : Array UInt32) : Array UInt32 :=
  let w := (List.range 48).foldl (fun (w : Array UInt32) i =>
    let x := w[i + 1]!
    let y := w[i + 14]!
    w.push (w[i]! + (turnRight x 7 ^^^ turnRight x 18 ^^^ (x >>> 3)) + w[i + 9]! +
      (turnRight y 17 ^^^ turnRight y 19 ^^^ (y >>> 10)))) m
  let t := (List.range 64).foldl (fun (t : Array UInt32) i =>
    let a := t[0]!
    let b := t[1]!
    let c := t[2]!
    let e := t[4]!
    let f := t[5]!
    let g := t[6]!
    let x := t[7]! + (turnRight e 6 ^^^ turnRight e 11 ^^^ turnRight e 25) +
      ((e &&& f) ^^^ (~~~e &&& g)) + k[i]! + w[i]!
    let y := (turnRight a 2 ^^^ turnRight a 13 ^^^ turnRight a 22) +
      ((a &&& b) ^^^ (a &&& c) ^^^ (b &&& c))
    #[x + y, a, b, c, t[3]! + x, e, f, g]) s
  (s.zip t).map fun (x, y) => x + y

def sha256From (start : List Nat) (size : Nat) (bs : List UInt8) : Octets :=
  let blocks := groupsOf 64 (bs.length / 64 + 3) (padded 64 8 true bs)
  let k := roots32
  let s := blocks.foldl (fun s g => sha256Block k s (words32 true g))
    (start.map UInt32.ofNat).toArray
  (s.toList.flatMap fun x => hex 4 x.toNat).take size

def sha256 (bs : List UInt8) : Octets :=
  sha256From ((squareRoots 32).take 8) 64 bs

/-- The second halves of the roots of the ninth to the sixteenth prime. -/
def sha224 (bs : List UInt8) : Octets :=
  sha256From ((((squareRoots 64).drop 8).take 8).map (· % 4294967296)) 56 bs

def sha512Block (k s m : Array UInt64) : Array UInt64 :=
  let w := (List.range 64).foldl (fun (w : Array UInt64) i =>
    let x := w[i + 1]!
    let y := w[i + 14]!
    w.push (w[i]! + (turnRight64 x 1 ^^^ turnRight64 x 8 ^^^ (x >>> 7)) + w[i + 9]! +
      (turnRight64 y 19 ^^^ turnRight64 y 61 ^^^ (y >>> 6)))) m
  let t := (List.range 80).foldl (fun (t : Array UInt64) i =>
    let a := t[0]!
    let b := t[1]!
    let c := t[2]!
    let e := t[4]!
    let f := t[5]!
    let g := t[6]!
    let x := t[7]! + (turnRight64 e 14 ^^^ turnRight64 e 18 ^^^ turnRight64 e 41) +
      ((e &&& f) ^^^ (~~~e &&& g)) + k[i]! + w[i]!
    let y := (turnRight64 a 28 ^^^ turnRight64 a 34 ^^^ turnRight64 a 39) +
      ((a &&& b) ^^^ (a &&& c) ^^^ (b &&& c))
    #[x + y, a, b, c, t[3]! + x, e, f, g]) s
  (s.zip t).map fun (x, y) => x + y

def sha512From (start : List Nat) (size : Nat) (bs : List UInt8) : Octets :=
  let blocks := groupsOf 128 (bs.length / 128 + 3) (padded 128 16 true bs)
  let k := ((cubeRoots 64).map UInt64.ofNat).toArray
  let s := blocks.foldl (fun s g => sha512Block k s (words64 g)) (start.map UInt64.ofNat).toArray
  (s.toList.flatMap fun x => hex 8 x.toNat).take size

def sha512 (bs : List UInt8) : Octets :=
  sha512From ((squareRoots 64).take 8) 128 bs

def sha384 (bs : List UInt8) : Octets :=
  sha512From (((squareRoots 64).drop 8).take 8) 96 bs

/-- One octet more of a cyclic check. -/
def crcStep (crc : UInt32) (b : UInt8) : UInt32 :=
  (List.range 8).foldl (fun c _ => if c &&& 0x80000000 ≠ 0 then (c <<< 1) ^^^ 0x04c11db7
    else c <<< 1) (crc ^^^ (b.toUInt32 <<< 24))

/-- The octets of a length, the least first, without zeros at the end. -/
def lengthOctets : Nat → Nat → List UInt8
  | 0, _ => []
  | fuel + 1, n => if n = 0 then [] else UInt8.ofNat (n % 256) :: lengthOctets fuel (n / 256)

def crc (bs : List UInt8) : Nat :=
  (~~~(lengthOctets 16 bs.length).foldl crcStep (bs.foldl crcStep 0)).toNat

/-! ### Tools -/

def rules : FlagRules where
  letters := "bctwz"
  names := [("binary", "b"), ("check", "c"), ("ignore-missing", "ignore-missing"),
    ("quiet", "quiet"), ("status", "status"), ("strict", "strict"), ("tag", "tag"), ("text", "t"),
    ("warn", "w"), ("zero", "z")]

/-- What a digest's tool prints of its operands. -/
def digest (title : String) (of' : List UInt8 → Octets) : Job Unit := do
  let f ← flags rules 1
  for n in if f.operands.isEmpty then [['-']] else f.operands do
    if let some cs ← operand? n 1 then
      let d := of' (Octets.toBytes cs)
      let ending := if f.has "z" then '\x00' else '\n'
      if f.has "c" then check n cs
      else if f.has "tag" then out (title.toList ++ " (".toList ++ n ++ ") = ".toList ++
        d ++ [ending])
      else out (d ++ [' ', if f.has "b" then '*' else ' '] ++ n ++ [ending])
where
  /-- Compares the digests that a list names. -/
  check (list cs : Octets) : Job Unit := do
    let entries := (Octets.lines cs).filterMap fun l =>
      let d := l.takeWhile fun c => Octets.digitValue c < 16
      match l.drop d.length with
      | ' ' :: _ :: name => if d.isEmpty || name.isEmpty then none else some (d, name)
      | _ => none
    if entries.isEmpty then
      fail 1 (list ++ ": no properly formatted checksum lines found".toList)
    let mut failed := 0
    let mut missing := 0
    for (d, name) in entries do
      match ← openOperand name Files.muchOf with
      | .ok text =>
        if of' (Octets.toBytes text) = d.map Char.toLower then line (name ++ ": OK".toList)
        else
          line (name ++ ": FAILED".toList)
          failed := failed + 1
      | .error e =>
        complain 1 (name ++ [':', ' '] ++ e.octets)
        line (name ++ ": FAILED open or read".toList)
        missing := missing + 1
    let plural (n : Nat) (one many : String) : Octets := (if n = 1 then one else many).toList
    if missing ≠ 0 then
      complain 1 ("WARNING: ".toList ++ Octets.ofNat missing ++
        plural missing " listed file could not be read" " listed files could not be read")
    if failed ≠ 0 then
      complain 1 ("WARNING: ".toList ++ Octets.ofNat failed ++
        plural failed " computed checksum did NOT match" " computed checksums did NOT match")

def cksum : Job Unit := do
  let f ← flags { letters := "a:bctwzl:", names := [("algorithm", "a:"), ("untagged", "untagged"),
    ("length", "l:"), ("check", "c"), ("zero", "z"), ("tag", "tag")] } 1
  for n in if f.operands.isEmpty then [['-']] else f.operands do
    if let some cs ← operand? n 1 then
      line (Octets.ofNat (crc (Octets.toBytes cs)) ++ ' ' :: Octets.ofNat cs.length ++
        if f.operands.isEmpty then [] else ' ' :: n)

end KeyRelay.Tools.Digest
