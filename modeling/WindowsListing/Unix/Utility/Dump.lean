import WindowsListing.Unix.Utility.Copy

/-!
# Bytes shown as numbers and letters

The programs that show bytes in rows of numbers or characters, that write them
in the sixty-four letters of an alphabet, and that compare them.
-/

set_option autoImplicit false

namespace WindowsListing.Unix.Utility
open Program

/-- How bytes are shown: as characters, by their names, or as numbers to a
base, of so many bytes each. -/
inductive FieldKind where
  | character
  | named
  | signed (bytes : Nat)
  | unsigned (base bytes : Nat)
  deriving DecidableEq

namespace FieldKind

def bytes : FieldKind → Nat
  | .character => 1
  | .named => 1
  | .signed n => n
  | .unsigned _ n => n

def width : FieldKind → Nat
  | .character => 3
  | .named => 3
  | .signed n => (toString (Nat.pow 2 (8 * n - 1))).length + 1
  | .unsigned base n => (Nat.toDigits base (Nat.pow 2 (8 * n) - 1)).length

def controlNames : List String :=
  ["nul", "soh", "stx", "etx", "eot", "enq", "ack", "bel", "bs", "ht", "nl", "vt", "ff", "cr",
   "so", "si", "dle", "dc1", "dc2", "dc3", "dc4", "nak", "syn", "etb", "can", "em", "sub", "esc",
   "fs", "gs", "rs", "us", "sp"]

def zeroPadded (width : Nat) (cs : List Char) : String :=
  String.ofList (List.replicate (width - cs.length) '0' ++ cs)

def characterText (c : Char) : String :=
  match [(Char.ofNat 0, "\\0"), (Char.ofNat 7, "\\a"), (Char.ofNat 8, "\\b"), ('\t', "\\t"),
      ('\n', "\\n"), (Char.ofNat 11, "\\v"), (Char.ofNat 12, "\\f"), ('\r', "\\r")].lookup c with
  | some text => text
  | none =>
    if ' ' ≤ c && c ≤ '~' then String.singleton c
    else zeroPadded 3 (Nat.toDigits 8 c.toNat)

/-- What is shown of the bytes of one field, the lowest byte of a number first. -/
def text (k : FieldKind) (cs : List Char) : String :=
  let value : Nat := cs.foldr (fun c n => n * 256 + c.toNat) 0
  match k with
  | .character => characterText (cs.headD ' ')
  | .named =>
    let n := value % 128
    if n = 127 then "del" else (controlNames[n]?).getD (String.singleton (Char.ofNat n))
  | .signed n =>
    if value ≥ Nat.pow 2 (8 * n - 1) then toString ((value : Int) - Nat.pow 2 (8 * n))
    else toString value
  | .unsigned base n =>
    if base = 10 then toString value
    else zeroPadded ((FieldKind.unsigned base n).width) (Nat.toDigits base value)

end FieldKind

def fieldRow (k : FieldKind) (rowBytes widest : Nat) (cs : List Char) : String :=
  let fields := rowBytes / k.bytes
  let spare := widest - fields * (k.width + 1)
  String.join ((chunks k.bytes cs.length cs).zipIdx.map fun (part, i) =>
    let before := spare * (fields - i) / fields
    let behind := spare * (fields - i - 1) / fields
    " " ++ rightAligned (k.width + (before - behind)) (k.text part))

structure AddressKind where
  base : Nat
  width : Nat

structure Dump where
  kinds : List FieldKind
  address? : Option AddressKind
  rowBytes : Nat
  repeats : Bool

namespace Dump

def address (d : Dump) (n : Nat) : String :=
  match d.address? with
  | some a => FieldKind.zeroPadded a.width (Nat.toDigits a.base n)
  | none => ""

/-- The rows from an address on. A row like the one before it is shown once by a star. -/
def rows (d : Dump) (widest : Nat) : Nat → Option (List Char) → Bool → List (List Char) →
    List String
  | n, _, _, [] => if d.address?.isSome then [d.address n] else []
  | n, before, starred, cs :: rest =>
    if !d.repeats && before = some cs && cs.length = d.rowBytes then
      (if starred then [] else ["*"]) ++ rows d widest (n + cs.length) before true rest
    else
      let indent := "".pushn ' ' ((d.address?.map (·.width)).getD 0)
      (d.kinds.zipIdx.map fun (k, i) =>
        (if i = 0 then d.address n else indent) ++ fieldRow k d.rowBytes widest cs) ++
        rows d widest (n + cs.length) (some cs) false rest

def render (d : Dump) (start : Nat) (text : String) : String :=
  let cs := text.toList
  let widest := (d.kinds.map fun k => d.rowBytes / k.bytes * (k.width + 1)).foldl max 0
  unlines (d.rows widest start none false (chunks d.rowBytes cs.length cs))

end Dump

def fieldKinds? : Nat → List Char → Option (List FieldKind)
  | 0, _ => none
  | _, [] => some []
  | n + 1, c :: cs =>
    let size := sizeOf? cs
    let rest := cs.drop size.2
    let kind := fun (k : Nat → FieldKind) =>
      if [1, 2, 4, 8].contains size.1 then (fieldKinds? n rest).map (k size.1 :: ·) else none
    match c with
    | 'a' => (fieldKinds? n cs).map (.named :: ·)
    | 'c' => (fieldKinds? n cs).map (.character :: ·)
    | 'd' => kind .signed
    | 'o' => kind (.unsigned 8)
    | 'u' => kind (.unsigned 10)
    | 'x' => kind (.unsigned 16)
    | _ => none
where
  sizeOf? (cs : List Char) : Nat × Nat :=
    match cs with
    | 'C' :: _ => (1, 1)
    | 'S' :: _ => (2, 1)
    | 'I' :: _ => (4, 1)
    | 'L' :: _ => (8, 1)
    | c :: _ => if c.isDigit then (c.toNat - '0'.toNat, 1) else (4, 0)
    | [] => (4, 0)

def letterKind? : Char → Option FieldKind
  | 'a' => some .named
  | 'b' => some (.unsigned 8 1)
  | 'c' => some .character
  | 'd' => some (.unsigned 10 2)
  | 'i' => some (.signed 4)
  | 'l' => some (.signed 8)
  | 'o' => some (.unsigned 8 2)
  | 's' => some (.signed 2)
  | 'x' => some (.unsigned 16 2)
  | _ => none

def addressKind? : String → Option (Option AddressKind)
  | "o" => some (some ⟨8, 7⟩)
  | "d" => some (some ⟨10, 7⟩)
  | "x" => some (some ⟨16, 6⟩)
  | "n" => some none
  | _ => none

def joinedTexts (name : String) : List String → Task (String × Nat)
  | [] => return ("", 0)
  | file :: files => do
    match ← textOf file with
    | .ok text => do
      let (rest, status) ← joinedTexts name files
      return (text ++ rest, status)
    | .error e => do
      Task.complain (name ++ ": " ++ file ++ ": " ++ e.text ++ "\n")
      return ((← joinedTexts name files).1, 1)

def od : Program := fun _ s =>
  let o := Options.read
    { plain := "abcdilosxv", valued := "AtjN", optional := "w"
      long := [("address-radix", 'A'), ("format", 't'), ("skip-bytes", 'j'), ("read-bytes", 'N'),
        ("output-duplicates", 'v'), ("width", 'w')] } s.arguments
  o.orElse "od" 1 <|
  let kinds? := o.given.mapM fun g =>
    if g.1 = 't' then fieldKinds? (g.2.length + 1) g.2.toList
    else some ((letterKind? g.1).toList)
  match kinds?, addressKind? ((o.value? 'A').getD "o") with
  | none, _ =>
    say "od" (complaint "od" ("invalid type string " ++ inMarks ((o.value? 't').getD "")) 1)
  | _, none =>
    say "od" (complaint "od" ("invalid output address radix '" ++
      ((o.value? 'A').getD "") ++ "'; it must be one character from [doxn]") 1)
  | some kinds, some address? => do
    let kinds := match kinds.flatten with
      | [] => [.unsigned 8 2]
      | kinds => kinds
    let number := fun c => (o.value? c).bind fun text => Number.literal? text.toList
    let (text, status) ← joinedTexts "od" (if o.operands = [] then ["-"] else o.operands)
    let skipped := (number 'j').getD 0
    let text := (text.drop skipped).toString
    let text := (number 'N').elim text fun n => (text.take n).toString
    let rowBytes := match number 'w' with
      | some n => max n 1
      | none => if o.has 'w' then 32 else 16
    let d : Dump := { kinds, address?, rowBytes, repeats := o.has 'v' }
    if status = 0 || text ≠ "" then put "od" (d.render skipped text)
    return status

def alphabet : List Char :=
  "ABCDEFGHIJKLMNOPQRSTUVWXYZabcdefghijklmnopqrstuvwxyz0123456789+/".toList

def letter (n : Nat) : Char := alphabet.getD (n % 64) '='

def lettered : List Char → List Char
  | a :: b :: c :: cs =>
    let n := (a.toNat * 256 + b.toNat) * 256 + c.toNat
    letter (n / 262144) :: letter (n / 4096) :: letter (n / 64) :: letter n :: lettered cs
  | [a, b] =>
    let n := (a.toNat * 256 + b.toNat) * 4
    [letter (n / 4096), letter (n / 64), letter n, '=']
  | [a] => [letter (a.toNat / 4), letter (a.toNat * 16), '=', '=']
  | [] => []

def bytesOf (w x y z : Nat) : List Char :=
  let n := ((w * 64 + x) * 64 + y) * 64 + z
  [Char.ofNat (n / 65536), Char.ofNat (n / 256 % 256), Char.ofNat (n % 256)]

def unlettered : List Char → List Char × Bool
  | a :: b :: c :: d :: cs =>
    match alphabet.idxOf? a, alphabet.idxOf? b, alphabet.idxOf? c, alphabet.idxOf? d with
    | some w, some x, some y, some z =>
      let (rest, sound) := unlettered cs
      (bytesOf w x y z ++ rest, sound)
    | some w, some x, some y, none => ((bytesOf w x y 0).take 2, d = '=' && cs = [])
    | some w, some x, none, _ => ((bytesOf w x 0 0).take 1, c = '=' && d = '=' && cs = [])
    | _, _, _, _ => ([], false)
  | [] => ([], true)
  | a :: b :: cs =>
    match [a, b, cs.headD 'A'].mapM alphabet.idxOf? with
    | some [w, x, y] => ((bytesOf w x y 0).take (cs.length + 1), false)
    | _ => ([], false)
  | _ => ([], false)

def wrapped (width : Nat) (cs : List Char) : String :=
  if cs = [] then ""
  else if width = 0 then String.ofList cs
  else unlines ((chunks width cs.length cs).map String.ofList)

def base64 : Program := fun _ s =>
  let o := Options.read
    { plain := "di", valued := "w"
      long := [("decode", 'd'), ("ignore-garbage", 'i'), ("wrap", 'w')] } s.arguments
  o.orElse "base64" 1 <|
  match o.operands with
  | _ :: extra :: _ => say "base64" (misuse "base64" ("extra operand " ++ inMarks extra) 1)
  | operands => do
    match ← textOf (operands.headD "-") with
    | .error e =>
      say "base64" (complaint "base64" (operands.headD "-" ++ ": " ++ e.text) 1)
    | .ok text =>
      if o.has 'd' then
        let cs := text.toList.filter fun c =>
          if o.has 'i' then alphabet.contains c || c = '=' else c ≠ '\n'
        let (bytes, sound) := unlettered cs
        put "base64" (String.ofList bytes)
        if sound then return 0
        else say "base64" (complaint "base64" "invalid input" 1)
      else
        match ((o.value? 'w').map Number.natural?).getD (some 76) with
        | some width => do
          put "base64" (wrapped width (lettered text.toList))
          return 0
        | none =>
          say "base64"
            (complaint "base64" ("invalid wrap size: " ++ inMarks ((o.value? 'w').getD "")) 1)

/-- Where two texts differ, counted from one: the bytes, and the lines of the first of them. -/
def differences : Nat → Nat → List Char → List Char → List (Nat × Nat × Char × Char)
  | byte, line, a :: as, b :: bs =>
    let rest := differences (byte + 1) (if a = '\n' then line + 1 else line) as bs
    if a = b then rest else (byte, line, a, b) :: rest
  | _, _, _, _ => []

def shorter (file text : String) (all : Bool) : String :=
  "cmp: EOF on " ++ file ++
    if text = "" then " which is empty\n"
    else
      let cs := text.toList
      let ends := (cs.filter (· = '\n')).length
      " after byte " ++ toString cs.length ++
        (if all then ""
         else if cs.getLast? = some '\n' then ", line " ++ toString ends
         else ", in line " ++ toString (ends + 1)) ++ "\n"

def cmp : Program := fun _ s =>
  let o := Options.read
    { plain := "bls"
      long := [("print-bytes", 'b'), ("verbose", 'l'), ("silent", 's'), ("quiet", 's')] }
    s.arguments
  o.orElse "cmp" 2 <|
  let pair? := match o.operands with
    | [a] => some (a, "-")
    | [a, b] => some (a, b)
    | _ => none
  match pair? with
  | none =>
    let message := match o.operands with
      | _ :: _ :: extra :: _ => "extra operand '" ++ extra ++ "'"
      | _ => "missing operand after 'cmp'"
    Program.say "cmp" { errors := "cmp: " ++ message ++
      "\ncmp: Try 'cmp --help' for more information.\n", status := 2 }
  | some (a, b) => do
    let left ← textOf a
    let right ← textOf b
    match left, right with
    | .ok x, .ok y => do
      let found := differences 1 1 x.toList y.toList
      if !o.has 's' then
        if o.has 'l' then
          let width := (toString (max x.length y.length)).length
          put "cmp" (unlines (found.map fun (n, _, c, d) =>
            rightAligned width (toString n) ++ " " ++ octal c ++ " " ++ octal d))
        else
          match found with
          | (n, line, c, d) :: _ =>
            put "cmp" (a ++ " " ++ b ++ " differ: byte " ++
              toString n ++ ", line " ++ toString line ++
              (if o.has 'b' then " is " ++ octal c ++ " " ++ shownByte c ++ " " ++ octal d ++
                " " ++ shownByte d else "") ++ "\n")
          | [] => pure ()
        if (found = [] || o.has 'l') && x.length ≠ y.length then
          Task.complain (if x.length < y.length then shorter a x (o.has 'l')
            else shorter b y (o.has 'l'))
      return if x = y then 0 else 1
    | .error e, _ => trouble o a e
    | _, .error e => trouble o b e
where
  octal (c : Char) : String := rightAligned 3 (String.ofList (Nat.toDigits 8 c.toNat))
  shownByte (c : Char) : String :=
    if c.toNat < 32 then "^" ++ String.singleton (Char.ofNat (c.toNat + 64)) else String.singleton c
  trouble (o : Options) (file : String) (e : Refusal) : Task Nat := do
    if !o.has 's' then Task.complain ("cmp: " ++ file ++ ": " ++ e.text ++ "\n")
    return 2

end WindowsListing.Unix.Utility
