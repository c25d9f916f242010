import HtmlDiagnostics.Encoding.Utf8

/-! # File names in bytes

A file goes by bytes, which need not be UTF-8. In a text a byte from `0x80` on that belongs to no
UTF-8 form is shown as the surrogate that lies `0xDC00` above it, and goes back to that byte. All
other code points take their UTF-8 form; the other surrogates have no bytes at all.

* **`FileName.bytes`** — the bytes of a name.
* **`FileName.encode`** — the bytes of a name, refused if a code point in it has none.
* **`FileName.canonical`** — the one text for all names with the same bytes. -/

namespace HtmlDiagnostics

/-- The byte that a surrogate stands for, if it stands for one. -/
def CodePoint.rawByte? (c : CodePoint) : Option UInt8 :=
  if 0xDC80 ≤ c.val ∧ c.val ≤ 0xDCFF then some (.ofNat (c.val - 0xDC00)) else none

namespace FileName

/-! ## Bytes -/

/-- Whether a code point has bytes in a name: all but the surrogates that stand for no byte. -/
def hasBytes (c : CodePoint) : Bool := !c.isSurrogate || c.rawByte?.isSome

/-- The bytes of a code point in a name. -/
def bytesOf (c : CodePoint) : List UInt8 :=
  match c.rawByte? with
  | some b => [b]
  | none => c.utf8

/-- The bytes of a name. -/
def bytes (name : Text) : List UInt8 := name.flatMap bytesOf

@[simp] theorem bytes_nil : bytes [] = [] := rfl

@[simp] theorem bytes_append (s t : Text) : bytes (s ++ t) = bytes s ++ bytes t := by
  simp [bytes]

/-- Surrogates in a name that have no bytes. -/
structure EncodeError where
  /-- The number of code points in front of the first one. -/
  position : Nat
  /-- The number of surrogates in a row from there on. -/
  count : Nat
  /-- The first one. -/
  point : CodePoint
  deriving DecidableEq

/-- What the error says: a single surrogate is shown, several are only counted. -/
def EncodeError.message (e : EncodeError) : Text :=
  "'utf-8' codec can't encode "
    ++ (if e.count = 1 then
          "character '\\u" ++ Text.paddedHex 4 e.point.val ++ "' in position "
            ++ Text.ofNat e.position
        else
          "characters in position " ++ Text.ofNat e.position ++ "-"
            ++ Text.ofNat (e.position + e.count - 1))
    ++ ": surrogates not allowed"

/-- The bytes of a name, refused at the first code point that has none. -/
def encode (name : Text) : Except EncodeError (List UInt8) :=
  match name.dropWhile hasBytes with
  | [] => .ok (bytes name)
  | c :: rest =>
    .error
      { position := (name.takeWhile hasBytes).length
        count := 1 + (rest.takeWhile CodePoint.isSurrogate).length
        point := c }

/-! ## One text for the same bytes -/

/-- The code point whose UTF-8 form is made up by the surrogates in front of a text, and how many
of them it takes. -/
def joined? (t : Text) : Option (CodePoint × Nat) :=
  [2, 3, 4].findSome? fun count =>
    match (t.take count).mapM CodePoint.rawByte? with
    | none => none
    | some bytes =>
      match Utf8.decode bytes with
      | .ok [c] => some (c, count)
      | _ => none

/-- The text for the bytes of a name behind some code points that are to be passed over. -/
def canonicalFrom : Nat → Text → Text
  | _, [] => []
  | passed + 1, _ :: rest => canonicalFrom passed rest
  | 0, c :: rest =>
    match joined? (c :: rest) with
    | some (d, count) => d :: canonicalFrom (count - 1) rest
    | none => c :: canonicalFrom 0 rest

/-- The text for the bytes of a name: surrogates that make up a UTF-8 form together are taken for
the code point of that form. -/
def canonical (name : Text) : Text := canonicalFrom 0 name

end FileName

end HtmlDiagnostics
