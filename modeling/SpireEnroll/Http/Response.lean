import SpireEnroll.Codec.Inflate
import SpireEnroll.Error
import SpireEnroll.Text.Charset
import SpireEnroll.Text.CodePages
import SpireEnroll.Text.Numeral
import SpireEnroll.Value.Json

/-!
# Responses

A response has a status, headers and a body of bytes. Header names are compared
without regard to case; a name given more than once stands for all its values,
joined by `", "`.

*Content codings.* The codings named by `content-encoding` (a list separated by
commas, names without case) were applied in the order named, so they are undone
in the reverse order: `gzip` is DEFLATE data in a gzip wrapper, `deflate` is
DEFLATE data in a zlib wrapper or, when that wrapper cannot be read, bare;
`identity` and unknown names change nothing. A fault while undoing a coding makes
the whole response unusable, with the fault's message.

*Text.* The text of a body is read by the decoder the runtime has registered
under the name `content-type` gives in its `charset` parameter, or as UTF-8 when it
gives none or one no decoder is registered under; bytes that cannot be read
become replacement characters. A registered codec that does not read bytes into
text fails the reading with its own error. The standard runtime registers the
sets of `Charset`, the code pages of `CodePage` and the codecs that read no text;
the codecs of several bytes per character of East Asian scripts, UTF-7 and the
escape codecs are not registered there, so a body naming one is read as UTF-8.

*JSON.* A body is read as JSON in the encoding its first bytes show (see
`Charset.ofJsonBytes`), strictly, and only as deep as the runtime's JSON reader
can follow.
-/

namespace SpireEnroll

abbrev Headers := List (String × String)

namespace Headers

def fold (name : String) : String :=
  name.map Char.toLower

def values (hs : Headers) (name : String) : List String :=
  (hs.filter fun (k, _) => fold k == fold name).map (·.2)

def get? (hs : Headers) (name : String) : Option String :=
  match hs.values name with
  | [] => none
  | vs => some (", ".intercalate vs)

def withDefault (hs : Headers) (name value : String) : Headers :=
  if (hs.values name).isEmpty then hs ++ [(name, value)] else hs

end Headers

def stripBlanks (s : String) : String :=
  String.ofList ((s.toList.dropWhile Text.isBlank).reverse.dropWhile Text.isBlank).reverse

/-- A content coding. -/
inductive Coding where
  | gzip
  | deflate
  | identity
deriving DecidableEq, Repr

namespace Coding

def ofName? (name : String) : Option Coding :=
  match (stripBlanks name).map Char.toLower with
  | "gzip" => some .gzip
  | "deflate" => some .deflate
  | "identity" => some .identity
  | _ => none

def undo : Coding → Array UInt8 → Except String (Array UInt8)
  | .identity, bs => .ok bs
  | .gzip, bs =>
    match Inflate.gzipStream bs with
    | .ok out => .ok out
    | o => .error o.message
  | .deflate, bs =>
    match Inflate.zlibStream bs with
    | .ok out => .ok out
    | _ =>
      match Inflate.rawStream bs with
      | .ok out => .ok out
      | o => .error o.message

end Coding

/-- A response: status, headers and the body as sent. -/
structure Response where
  status : Nat
  headers : Headers
  body : Array UInt8
deriving Inhabited

/-- One parameter of a structured header value: its name and value, quotes
removed. -/
structure HeaderParam where
  name : String
  value : String
deriving DecidableEq, Repr

namespace HeaderParam

def inQuotes (pre : List Char) : Bool :=
  let quotes := pre.count '"'
  let escaped := (pre.zip (pre.drop 1)).countP fun (a, b) => a == '\\' && b == '"'
  (quotes - escaped) % 2 == 1

def pieces (cs : List Char) : List (List Char) :=
  go cs.length [] cs []
where
  go : Nat → List Char → List Char → List (List Char) → List (List Char)
    | 0, cur, _, acc => (cur.reverse :: acc).reverse
    | _ + 1, cur, [], acc => (cur.reverse :: acc).reverse
    | fuel + 1, cur, c :: rest, acc =>
      if c == ';' && !cur.isEmpty && !inQuotes cur.reverse then go fuel [] rest (cur.reverse :: acc)
      else if c == ';' && cur.isEmpty then go fuel [] rest ([] :: acc)
      else go fuel (c :: cur) rest acc

def unquote (v : String) : String :=
  let cs := v.toList
  if cs.length > 1 && cs.head? == some '"' && cs.getLast? == some '"' then
    ((String.ofList (cs.drop 1).dropLast).replace "\\\\" "\\").replace "\\\"" "\""
  else if cs.length > 1 && cs.head? == some '<' && cs.getLast? == some '>' then
    String.ofList (cs.drop 1).dropLast
  else v

def ofPiece (p : List Char) : HeaderParam :=
  match p.findIdx? (· == '=') with
  | some i =>
    ⟨(stripBlanks (String.ofList (p.take i))).map Char.toLower,
      unquote (stripBlanks (String.ofList (p.drop (i + 1))))⟩
  | none => ⟨stripBlanks (String.ofList p), ""⟩

def parse (value : String) : List HeaderParam :=
  (pieces value.toList).map ofPiece

end HeaderParam

namespace Response

/-- The body with its content codings undone, or the message of the fault. -/
def content (r : Response) : Except String (Array UInt8) :=
  let names := (r.headers.values "content-encoding").flatMap (·.splitOn ",")
  let codings := names.filterMap Coding.ofName?
  codings.reverse.foldlM (fun bs c => c.undo bs) r.body

/-- The character set `content-type` names, in lower case; none when it names
none or a name that is not ASCII. -/
def charsetName? (r : Response) : Option String := do
  let ct ← r.headers.get? "content-type"
  let p ← (HeaderParam.parse ct).find? fun p => p.name.map Char.toLower == "charset"
  if p.value.toList.all (fun c => c.toNat < 128) then some (p.value.map Char.toLower) else none

/-- The text of content received with a response, read by the decoder registered
under the response's character set, or as UTF-8; fails as that decoder fails. -/
def textOf (r : Response) (decoder : String → Option (Array UInt8 → Except OperatorError String))
    (content : Array UInt8) : Except OperatorError String :=
  if content.isEmpty then .ok ""
  else match r.charsetName?.bind decoder with
    | some decode => decode content
    | none => .ok (Charset.utf8.decodeLossy content)

end Response

/-- What the interpreter lends a client: the text decoder registered under each
character set name, and how many arrays and objects its JSON reader can open
inside one another before it runs out of stack. -/
structure Runtime where
  decoder : String → Option (Array UInt8 → Except OperatorError String)
  jsonDepth : Nat
  /-- A decoder fails only with an error of a library's own class, never with one
  the operator raises. -/
  decoder_foreign : ∀ name decode content e, decoder name = some decode →
    decode content = .error e → ∃ k, e.kind = .foreign k

namespace Runtime

def nonTextCodecs : List (List String × OperatorError) :=
  [(["base64", "base_64", "base64_codec", "hex", "hex_codec", "zip", "zlib", "zlib_codec", "bz2",
      "bz2_codec", "quopri", "quoted_printable", "quotedprintable", "quopri_codec", "uu",
      "uu_codec"], .other (.foreign "AssertionError") ""),
   (["rot13", "rot_13"], .other (.foreign "TypeError")
      "descriptor 'translate' for 'str' objects doesn't apply to a 'bytes' object"),
   (["idna"], .other (.foreign "UnicodeError") "Unsupported error handling replace"),
   (["undefined"], .other (.foreign "UnicodeError") "undefined encoding")]

/-- The decoder registered under a name in a standard interpreter: a known
character set or code page reads with replacement, a codec that reads no text
fails. -/
def standardDecoder (name : String) : Option (Array UInt8 → Except OperatorError String) :=
  match Charset.ofName? name with
  | some cs => some fun bs => .ok (cs.decodeLossy bs)
  | none =>
    match CodePage.ofName? name with
    | some page => some fun bs => .ok (page.read bs)
    | none =>
      (nonTextCodecs.find? fun (names, _) => names.contains (Charset.normalName name)).map
        fun (_, e) _ => .error e

/-- A standard interpreter, whose JSON reader follows nesting a little under a
thousand deep. -/
def standard : Runtime where
  decoder := standardDecoder
  jsonDepth := 985
  decoder_foreign name decode content e hd he := by
    unfold standardDecoder at hd
    cases hc : Charset.ofName? name with
    | some cs =>
      rw [hc, Option.some.injEq] at hd
      subst hd
      cases he
    | none =>
      rw [hc] at hd
      cases hp : CodePage.ofName? name with
      | some page =>
        rw [hp, Option.some.injEq] at hd
        subst hd
        cases he
      | none =>
        rw [hp] at hd
        obtain ⟨⟨names, e'⟩, hfind, rfl⟩ := Option.map_eq_some_iff.mp hd
        cases he
        -- every codec that reads no text fails with an error of its own class
        have hmem := List.mem_of_find?_eq_some hfind
        simp only [nonTextCodecs, List.mem_cons, Prod.mk.injEq, List.not_mem_nil, or_false] at hmem
        rcases hmem with ⟨-, rfl⟩ | ⟨-, rfl⟩ | ⟨-, rfl⟩ | ⟨-, rfl⟩ <;> exact ⟨_, rfl⟩

end Runtime

/-- Content read as JSON, in the encoding its first bytes show, no deeper than
`depth`. -/
def jsonOfBytes (depth : Nat) (content : Array UInt8) : Except Json.Failure Value :=
  match (Charset.ofJsonBytes content).decodePassingSurrogates content with
  | some text => Json.read depth text
  | none => .error .malformed

end SpireEnroll
