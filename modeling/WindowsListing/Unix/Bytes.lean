/-!
# Bytes

Inside a host all text is bytes. A byte is kept as the character of the same
number, so that bytes are handled like any text.
-/

set_option autoImplicit false

namespace WindowsListing.Unix.Bytes

def ofText (text : String) : String :=
  String.ofList (text.toUTF8.toList.map fun b => Char.ofNat b.toNat)

def text? (bytes : String) : Option String :=
  String.fromUTF8? ⟨(bytes.toList.map fun c => c.toNat.toUInt8).toArray⟩

def extent (b : Nat) : Nat × Nat × Nat :=
  if b < 0x80 then (1, 0, 0)
  else if b < 0xc2 then (0, 0, 0)
  else if b < 0xe0 then (2, 0x80, 0xbf)
  else if b = 0xe0 then (3, 0xa0, 0xbf)
  else if b = 0xed then (3, 0x80, 0x9f)
  else if b < 0xf0 then (3, 0x80, 0xbf)
  else if b = 0xf0 then (4, 0x90, 0xbf)
  else if b < 0xf4 then (4, 0x80, 0xbf)
  else if b = 0xf4 then (4, 0x80, 0x8f)
  else (0, 0, 0)

def together (bytes : List Nat) : Nat :=
  match bytes with
  | [] => 0
  | b :: rest =>
    let (length, low, high) := extent b
    match rest with
    | c :: more =>
      if length > 1 && low ≤ c && c ≤ high then
        2 + ((more.take (length - 2)).takeWhile fun d => 0x80 ≤ d && d ≤ 0xbf).length
      else 1
    | [] => 1

def pieces : Nat → List Nat → List String
  | 0, _ => []
  | _, [] => []
  | n + 1, bytes =>
    let k := together bytes
    let front := bytes.take k
    let text? := String.fromUTF8? ⟨(front.map Nat.toUInt8).toArray⟩
    text?.getD "\ufffd" :: pieces n (bytes.drop k)

/-- The text that bytes spell. Where they spell none, the replacement character
stands for as many bytes as begin a character together. -/
def toText (bytes : String) : String :=
  match text? bytes with
  | some text => text
  | none => String.join (pieces bytes.length (bytes.toList.map Char.toNat))

end WindowsListing.Unix.Bytes
