/-!
# Inflating compressed bodies

A body sent with `content-encoding: gzip` or `deflate` is DEFLATE data (RFC 1951),
in a gzip wrapper (RFC 1952), a zlib wrapper (RFC 1950), or bare. Inflating it
gives the body's bytes, or stops with the message of the first fault:

* headers: `incorrect header check`, `unknown compression method`, `invalid window
  size`, `unknown header flags set`, `header crc mismatch`;
* blocks: `invalid block type`, `invalid stored block lengths`, `too many length or
  distance symbols`, `invalid code lengths set`, `invalid bit length repeat`,
  `invalid code -- missing end-of-block`, `invalid literal/lengths set`, `invalid
  distances set`, `invalid literal/length code`, `invalid distance code`, `invalid
  distance too far back`;
* trailers: `incorrect data check`, `incorrect length check`.

Data that simply stops early is not a fault: what was inflated so far is the
result, a symbol cut in the middle giving nothing. Bytes after the end of the
stream are ignored.

Huffman codes are read bit by bit: a code of a given length is recognised as soon
as its bits are read, and a prefix that no code can complete is a fault as soon
as it is read.
-/

namespace SpireEnroll
namespace Inflate

/-- A cursor over the bits of bytes, least significant bit of each byte first. -/
structure Bits where
  data : Array UInt8
  pos : Nat
deriving Inhabited

/-- Why reading stopped: the input ran out, or a fault. -/
inductive Halt where
  | cut
  | bad (msg : String)
deriving Repr, Inhabited

namespace Bits

def bit (b : Bits) : Except Halt (Nat × Bits) :=
  let byte := b.pos / 8
  if byte < b.data.size then
    .ok (((b.data.getD byte 0).toNat >>> (b.pos % 8)) % 2, ⟨b.data, b.pos + 1⟩)
  else .error .cut

/-- The next `n` bits as a number, the first bit least significant. -/
def take (b : Bits) : Nat → Except Halt (Nat × Bits)
  | 0 => .ok (0, b)
  | n + 1 => do
    let (x, b) ← b.bit
    let (rest, b) ← b.take n
    pure (x + 2 * rest, b)

def align (b : Bits) : Bits :=
  ⟨b.data, (b.pos + 7) / 8 * 8⟩

def byteAt (b : Bits) (i : Nat) : Nat :=
  (b.data.getD i 0).toNat

def bytesLeft (b : Bits) : Nat :=
  b.data.size - b.pos / 8

end Bits

/-- A canonical Huffman code: how many codes each length has, and the symbols in
code order. -/
structure Code where
  count : Array Nat
  symbol : Array Nat
  /-- The longest code length; zero for a code with no symbols. -/
  longest : Nat
deriving Inhabited

/-- The code given by code lengths (zero for an unused symbol), with how many
codes of the longest length are left over: zero for a complete code, positive for
an incomplete one, negative for an over-subscribed one. -/
def Code.build (lengths : List Nat) : Code × Int :=
  let count := lengths.foldl (fun c l => c.modify l (· + 1)) (Array.replicate 16 (0 : Nat))
  let longest := (List.range 16).foldl (fun m l => if l > 0 && count.getD l 0 > 0 then l else m) 0
  let left : Int := (List.range 15).foldl (fun left k =>
    if left < 0 then left else 2 * left - (count.getD (k + 1) 0 : Int)) 1
  let symbol := (List.range 15).flatMap fun k =>
    ((List.range lengths.length).filter fun s => lengths.getD s 0 == k + 1)
  (⟨count, symbol.toArray, longest⟩, left)

def Code.decode (c : Code) (b : Bits) : Except Halt (Nat × Bits) :=
  go 1 0 0 0 b
where
  go : Nat → Nat → Nat → Nat → Bits → Except Halt (Nat × Bits)
    | len, code, first, index, b =>
      if len > 15 then .error (.bad "")
      else do
        let (x, b) ← b.bit
        let code := code + x
        let count := c.count.getD len 0
        if code < first + count then pure (c.symbol.getD (index + (code - first)) 0, b)
        else if len ≥ c.longest then .error (.bad "")
        else go (len + 1) (2 * code) (2 * (first + count)) (index + count) b
  termination_by len _ _ _ _ => 16 - len

def lengthBase : Array Nat :=
  #[3, 4, 5, 6, 7, 8, 9, 10, 11, 13, 15, 17, 19, 23, 27, 31, 35, 43, 51, 59, 67, 83, 99, 115,
    131, 163, 195, 227, 258]

def lengthExtra : Array Nat :=
  #[0, 0, 0, 0, 0, 0, 0, 0, 1, 1, 1, 1, 2, 2, 2, 2, 3, 3, 3, 3, 4, 4, 4, 4, 5, 5, 5, 5, 0]

def distBase : Array Nat :=
  #[1, 2, 3, 4, 5, 7, 9, 13, 17, 25, 33, 49, 65, 97, 129, 193, 257, 385, 513, 769, 1025, 1537,
    2049, 3073, 4097, 6145, 8193, 12289, 16385, 24577]

def distExtra : Array Nat :=
  #[0, 0, 0, 0, 1, 1, 2, 2, 3, 3, 4, 4, 5, 5, 6, 6, 7, 7, 8, 8, 9, 9, 10, 10, 11, 11, 12, 12,
    13, 13]

def fixedLit : Code :=
  (Code.build (List.replicate 144 8 ++ List.replicate 112 9 ++ List.replicate 24 7 ++
    List.replicate 8 8)).1

def fixedDist : Code :=
  (Code.build (List.replicate 30 5)).1

def copyBack (d : Nat) : Nat → Array UInt8 → Array UInt8
  | 0, out => out
  | n + 1, out => copyBack d n (out.push (out.getD (out.size - d) 0))

/-- How a run of blocks ended. -/
inductive Run where
  /-- The block (or the final block) ended; the cursor after it. -/
  | more (b : Bits) (out : Array UInt8)
  | cut (out : Array UInt8)
  | bad (msg : String)
deriving Inhabited

def blockSymbols (lit dist : Code) : Nat → Bits → Array UInt8 → Run
  | 0, _, out => .cut out
  | fuel + 1, b, out =>
    match lit.decode b with
    | .error .cut => .cut out
    | .error (.bad _) => .bad "invalid literal/length code"
    | .ok (sym, b) =>
      if sym < 256 then blockSymbols lit dist fuel b (out.push sym.toUInt8)
      else if sym == 256 then .more b out
      else if sym > 285 then .bad "invalid literal/length code"
      else
        let i := sym - 257
        match b.take (lengthExtra.getD i 0) with
        | .error _ => .cut out
        | .ok (e, b) =>
          let len := lengthBase.getD i 0 + e
          match dist.decode b with
          | .error .cut => .cut out
          | .error (.bad _) => .bad "invalid distance code"
          | .ok (ds, b) =>
            if ds > 29 then .bad "invalid distance code"
            else match b.take (distExtra.getD ds 0) with
              | .error _ => .cut out
              | .ok (e, b) =>
                let d := distBase.getD ds 0 + e
                if d > out.size then .bad "invalid distance too far back"
                else blockSymbols lit dist fuel b (copyBack d len out)

def codeLengthOrder : List Nat :=
  [16, 17, 18, 0, 8, 7, 9, 6, 10, 5, 11, 4, 12, 3, 13, 2, 14, 1, 15]

def readLengths (cl : Option Code) (total : Nat) : Nat → Bits → Array Nat → Except Halt ((Array Nat) × Bits)
  | 0, b, acc => .ok (acc, b)
  | fuel + 1, b, acc =>
    if acc.size ≥ total then .ok (acc, b)
    else do
      let (sym, b) ← match cl with
        | some c => c.decode b
        | none => do
          let (_, b) ← b.bit
          pure (0, b)
      if sym < 16 then readLengths cl total fuel b (acc.push sym)
      else
        let (repeatBits, base) := if sym == 16 then (2, 3) else if sym == 17 then (3, 3) else (7, 11)
        let (e, b) ← b.take repeatBits
        if sym == 16 && acc.isEmpty then throw (.bad "invalid bit length repeat")
        let value := if sym == 16 then acc.back?.getD 0 else 0
        let copies := base + e
        if acc.size + copies > total then throw (.bad "invalid bit length repeat")
        readLengths cl total fuel b (acc ++ Array.replicate copies value)

def dynamicCodes (b : Bits) : Except Halt ((Code × Code) × Bits) := do
  let (hlit, b) ← b.take 5
  let (hdist, b) ← b.take 5
  let (hclen, b) ← b.take 4
  let nlen := hlit + 257
  let ndist := hdist + 1
  if nlen > 286 || ndist > 30 then throw (.bad "too many length or distance symbols")
  let rec codeLengths : List Nat → Bits → Array Nat → Except Halt ((Array Nat) × Bits)
    | [], b, acc => .ok (acc, b)
    | s :: rest, b, acc => do
      let (l, b) ← b.take 3
      codeLengths rest b (acc.set! s l)
  let (cls, b) ← codeLengths (codeLengthOrder.take (hclen + 4)) b (Array.replicate 19 0)
  let (clCode, clLeft) := Code.build cls.toList
  let cl ← if clCode.longest == 0 then pure none
    else if clLeft != 0 then throw (.bad "invalid code lengths set")
    else pure (some clCode)
  let (lens, b) ← readLengths cl (nlen + ndist) (nlen + ndist + 1) b #[]
  if lens.getD 256 0 == 0 then throw (.bad "invalid code -- missing end-of-block")
  let (lit, litLeft) := Code.build (lens.toList.take nlen)
  if litLeft < 0 || (litLeft > 0 && lit.longest > 1) then throw (.bad "invalid literal/lengths set")
  let (dist, distLeft) := Code.build (lens.toList.drop nlen)
  if distLeft < 0 || (distLeft > 0 && dist.longest > 1) then throw (.bad "invalid distances set")
  pure ((lit, dist), b)

def storedBlock (b : Bits) (out : Array UInt8) : Run :=
  let b := b.align
  if b.bytesLeft < 4 then .cut out
  else
    let p := b.pos / 8
    let len := b.byteAt p + 256 * b.byteAt (p + 1)
    let nlen := b.byteAt (p + 2) + 256 * b.byteAt (p + 3)
    if len != nlen ^^^ 0xFFFF then .bad "invalid stored block lengths"
    else
      let avail := b.data.size - (p + 4)
      let out := out ++ b.data.extract (p + 4) (p + 4 + min len avail)
      if avail < len then .cut out
      else .more ⟨b.data, (p + 4 + len) * 8⟩ out

def blocks : Nat → Bits → Array UInt8 → Run
  | 0, _, out => .cut out
  | fuel + 1, b, out =>
    match b.take 3 with
    | .error _ => .cut out
    | .ok (header, b) =>
      let final := header % 2 == 1
      let kind := header / 2
      let run : Run :=
        if kind == 0 then storedBlock b out
        else if kind == 1 then blockSymbols fixedLit fixedDist (b.data.size * 8 + 1) b out
        else if kind == 2 then
          match dynamicCodes b with
          | .error .cut => .cut out
          | .error (.bad m) => .bad m
          | .ok ((lit, dist), b) => blockSymbols lit dist (b.data.size * 8 + 1) b out
        else .bad "invalid block type"
      match run with
      | .more b out => if final then .more b out else blocks fuel b out
      | r => r

/-- Inflate bare DEFLATE data from a byte position. -/
def deflateFrom (data : Array UInt8) (start : Nat) : Run :=
  blocks (data.size * 8 + 1) ⟨data, start * 8⟩ #[]

def crc32 (bs : Array UInt8) : Nat :=
  let step (c : Nat) (_ : Nat) : Nat := if c % 2 == 1 then (c >>> 1) ^^^ 0xEDB88320 else c >>> 1
  let c := bs.foldl (fun c byte => (List.range 8).foldl step (c ^^^ byte.toNat)) 0xFFFFFFFF
  c ^^^ 0xFFFFFFFF

def adler32 (bs : Array UInt8) : Nat :=
  let (a, b) := bs.foldl (fun (a, b) byte =>
    let a := (a + byte.toNat) % 65521
    (a, (b + a) % 65521)) (1, 0)
  b * 65536 + a

def bigEndian32 (b : Bits) (p : Nat) : Nat :=
  ((b.byteAt p * 256 + b.byteAt (p + 1)) * 256 + b.byteAt (p + 2)) * 256 + b.byteAt (p + 3)

def littleEndian32 (b : Bits) (p : Nat) : Nat :=
  ((b.byteAt (p + 3) * 256 + b.byteAt (p + 2)) * 256 + b.byteAt (p + 1)) * 256 + b.byteAt p

/-- The outcome of inflating a whole body. -/
inductive Outcome where
  | ok (out : Array UInt8)
  /-- A data fault with zlib's message. -/
  | bad (msg : String)
  /-- A zlib stream asking for a preset dictionary. -/
  | needsDictionary
deriving Inhabited

/-- Inflate DEFLATE data in a zlib wrapper. -/
def zlibStream (data : Array UInt8) : Outcome :=
  let b : Bits := ⟨data, 0⟩
  if data.size < 2 then .ok #[]
  else
    let cmf := b.byteAt 0
    let flg := b.byteAt 1
    if (cmf * 256 + flg) % 31 != 0 then .bad "incorrect header check"
    else if cmf % 16 != 8 then .bad "unknown compression method"
    else if cmf / 16 + 8 > 15 then .bad "invalid window size"
    else if flg &&& 0x20 != 0 then (if data.size < 6 then .ok #[] else .needsDictionary)
    else match deflateFrom data 2 with
      | .bad m => .bad m
      | .cut out => .ok out
      | .more b out =>
        let b := b.align
        if b.bytesLeft < 4 then .ok out
        else if bigEndian32 b (b.pos / 8) != adler32 out then .bad "incorrect data check"
        else .ok out

def skipZeroTerminated (data : Array UInt8) (p : Nat) : Option Nat :=
  go (data.size + 1) p
where
  go : Nat → Nat → Option Nat
    | 0, _ => none
    | fuel + 1, p =>
      if p ≥ data.size then none
      else if data.getD p 0 == 0 then some (p + 1)
      else go fuel (p + 1)

def gzipHeaderEnd (data : Array UInt8) : Except Outcome Nat := do
  let b : Bits := ⟨data, 0⟩
  if data.size < 2 then throw (.ok #[])
  if b.byteAt 0 != 0x1f || b.byteAt 1 != 0x8b then throw (.bad "incorrect header check")
  if data.size < 4 then throw (.ok #[])
  if b.byteAt 2 != 8 then throw (.bad "unknown compression method")
  let flags := b.byteAt 3
  if flags &&& 0xe0 != 0 then throw (.bad "unknown header flags set")
  if data.size < 10 then throw (.ok #[])
  let p := 10
  let p ← if flags &&& 0x04 != 0 then do
      if data.size < p + 2 then throw (.ok #[])
      let xlen := b.byteAt p + 256 * b.byteAt (p + 1)
      if data.size < p + 2 + xlen then throw (.ok #[])
      pure (p + 2 + xlen)
    else pure p
  let p ← if flags &&& 0x08 != 0 then
      match skipZeroTerminated data p with
      | some q => pure q
      | none => throw (.ok #[])
    else pure p
  let p ← if flags &&& 0x10 != 0 then
      match skipZeroTerminated data p with
      | some q => pure q
      | none => throw (.ok #[])
    else pure p
  if flags &&& 0x02 != 0 then
    if data.size < p + 2 then throw (.ok #[])
    let stored := b.byteAt p + 256 * b.byteAt (p + 1)
    if stored != crc32 (data.extract 0 p) % 65536 then throw (.bad "header crc mismatch")
    return p + 2
  return p

/-- Inflate DEFLATE data in a gzip wrapper. -/
def gzipStream (data : Array UInt8) : Outcome :=
  match gzipHeaderEnd data with
  | .error o => o
  | .ok start =>
    match deflateFrom data start with
    | .bad m => .bad m
    | .cut out => .ok out
    | .more b out =>
      let b := b.align
      let p := b.pos / 8
      if b.bytesLeft < 4 then .ok out
      else if littleEndian32 b p != crc32 out then .bad "incorrect data check"
      else if b.bytesLeft < 8 then .ok out
      else if littleEndian32 b (p + 4) != out.size % 4294967296 then .bad "incorrect length check"
      else .ok out

/-- Inflate bare DEFLATE data. -/
def rawStream (data : Array UInt8) : Outcome :=
  match deflateFrom data 0 with
  | .bad m => .bad m
  | .cut out => .ok out
  | .more _ out => .ok out

/-- The message a failed decompression reports. -/
def Outcome.message : Outcome → String
  | .bad m => "Error -3 while decompressing data: " ++ m
  | .needsDictionary => "Error 2 while decompressing data"
  | .ok _ => ""

end Inflate
end SpireEnroll
