import HtmlDiagnostics.Text.Numeral

/-! # UTF-8

* **`CodePoint.utf8`**, **`Utf8.encode`** — the bytes of a code point and of a text.
* **`Utf8.decode`** — the text of some bytes. Bytes that are no shortest form of a code point, or
  the form of a surrogate, are refused: the error says where, how many bytes and why.

A code point takes one to four bytes. The first byte says how many there are; the others lie
between `0x80` and `0xBF`, and after some first bytes the second one is held to a part of that
range, which keeps out longer forms than needed, surrogates, and numbers above `0x10FFFF`. -/

namespace HtmlDiagnostics

/-! ## Encoding -/

/-- The bytes that carry a number: one if seven bits are enough, else a first byte with the number
of bytes and the highest bits, and six bits in each further byte. -/
def Utf8.bytesOf (n : Nat) : List UInt8 :=
  if n < 0x80 then [.ofNat n]
  else if n < 0x800 then [.ofNat (0xC0 + n / 0x40), .ofNat (0x80 + n % 0x40)]
  else if n < 0x10000 then
    [.ofNat (0xE0 + n / 0x1000), .ofNat (0x80 + n / 0x40 % 0x40), .ofNat (0x80 + n % 0x40)]
  else
    [.ofNat (0xF0 + n / 0x40000), .ofNat (0x80 + n / 0x1000 % 0x40),
     .ofNat (0x80 + n / 0x40 % 0x40), .ofNat (0x80 + n % 0x40)]

/-- The bytes of a code point. -/
def CodePoint.utf8 (c : CodePoint) : List UInt8 := Utf8.bytesOf c.val

namespace Utf8

/-- The bytes of a text. -/
def encode (t : Text) : List UInt8 := t.flatMap CodePoint.utf8

@[simp] theorem encode_nil : encode [] = [] := rfl

@[simp] theorem encode_append (s t : Text) : encode (s ++ t) = encode s ++ encode t := by
  simp [encode]

/-! ## Errors -/

/-- Why bytes are refused. -/
inductive Cause where
  /-- No code point starts with such a byte. -/
  | invalidStart
  /-- A byte does not go on with the code point that has begun. -/
  | invalidContinuation
  /-- The bytes end within a code point. -/
  | unexpectedEnd
  deriving DecidableEq

/-- The words for a cause. -/
def Cause.words : Cause → Text
  | .invalidStart => "invalid start byte"
  | .invalidContinuation => "invalid continuation byte"
  | .unexpectedEnd => "unexpected end of data"

/-- Where bytes are refused. -/
structure DecodeError where
  /-- The number of bytes in front of the refused ones. -/
  position : Nat
  /-- The number of refused bytes. -/
  count : Nat
  /-- The first refused byte. -/
  byte : UInt8
  /-- Why they are refused. -/
  cause : Cause
  deriving DecidableEq

/-- What the error says: a single byte is shown, several are only counted. -/
def DecodeError.message (e : DecodeError) : Text :=
  "'utf-8' codec can't decode "
    ++ (if e.count = 1 then
          "byte 0x" ++ Text.paddedHex 2 e.byte.toNat ++ " in position " ++ Text.ofNat e.position
        else
          "bytes in position " ++ Text.ofNat e.position ++ "-"
            ++ Text.ofNat (e.position + e.count - 1))
    ++ ": " ++ e.cause.words

/-! ## Decoding -/

/-- Whether a byte can go on with a code point. -/
def isContinuation (b : UInt8) : Bool := 0x80 ≤ b.toNat && b.toNat ≤ 0xBF

/-- Whether a byte can come second after a first byte of a longer form. -/
def isSecond (first second : UInt8) : Bool :=
  isContinuation second
    && (first.toNat != 0xE0 || 0xA0 ≤ second.toNat)
    && (first.toNat != 0xED || second.toNat ≤ 0x9F)
    && (first.toNat != 0xF0 || 0x90 ≤ second.toNat)
    && (first.toNat != 0xF4 || second.toNat ≤ 0x8F)

/-- The six bits that a continuation byte carries. -/
def payload (b : UInt8) : Nat := b.toNat % 0x40

theorem payload_lt (b : UInt8) : payload b < 0x40 := Nat.mod_lt _ (by decide)

/-- The code point of a single byte. -/
def point₁ (a : UInt8) : CodePoint := ⟨a.toNat, by have := a.toNat_lt; omega⟩

/-- The code point of two bytes. -/
def point₂ (a b : UInt8) : CodePoint :=
  ⟨a.toNat % 0x20 * 0x40 + payload b, by have := payload_lt b; omega⟩

/-- The code point of three bytes. -/
def point₃ (a b c : UInt8) : CodePoint :=
  ⟨a.toNat % 0x10 * 0x1000 + payload b * 0x40 + payload c, by
    have := payload_lt b
    have := payload_lt c
    omega⟩

/-- The code point of four bytes that do not begin higher than the code points end. -/
def point₄ (a b c d : UInt8) (h : a.toNat % 8 * 0x40 + payload b < 0x110) : CodePoint :=
  ⟨(a.toNat % 8 * 0x40 + payload b) * 0x1000 + payload c * 0x40 + payload d, by
    have := payload_lt c
    have := payload_lt d
    omega⟩

/-- The first two bytes of four do not begin higher than the code points end. -/
theorem start_lt_of_isSecond {a b : UInt8} (ha : ¬(a.toNat < 0xC2 ∨ 0xF4 < a.toNat))
    (hlong : ¬a.toNat < 0xF0) (hb : isSecond a b) : a.toNat % 8 * 0x40 + payload b < 0x110 := by
  simp only [isSecond, isContinuation, payload, Bool.and_eq_true, Bool.or_eq_true, bne_iff_ne,
    decide_eq_true_eq] at *
  omega

/-- The text of bytes that stand behind `position` others. -/
def decodeFrom (position : Nat) : List UInt8 → Except DecodeError Text
  | [] => .ok []
  | a :: rest =>
    if a.toNat < 0x80 then
      (decodeFrom (position + 1) rest).map (point₁ a :: ·)
    else if ha : a.toNat < 0xC2 ∨ 0xF4 < a.toNat then
      .error ⟨position, 1, a, .invalidStart⟩
    else match rest with
      | [] => .error ⟨position, 1, a, .unexpectedEnd⟩
      | b :: rest =>
        if hb : isSecond a b then
          if a.toNat < 0xE0 then
            (decodeFrom (position + 2) rest).map (point₂ a b :: ·)
          else match rest with
            | [] => .error ⟨position, 2, a, .unexpectedEnd⟩
            | c :: rest =>
              if isContinuation c then
                if hlong : a.toNat < 0xF0 then
                  (decodeFrom (position + 3) rest).map (point₃ a b c :: ·)
                else match rest with
                  | [] => .error ⟨position, 3, a, .unexpectedEnd⟩
                  | d :: rest =>
                    if isContinuation d then
                      (decodeFrom (position + 4) rest).map
                        (point₄ a b c d (start_lt_of_isSecond ha hlong hb) :: ·)
                    else .error ⟨position, 3, a, .invalidContinuation⟩
              else .error ⟨position, 2, a, .invalidContinuation⟩
        else .error ⟨position, 1, a, .invalidContinuation⟩

/-- The text of some bytes. -/
def decode (bytes : List UInt8) : Except DecodeError Text := decodeFrom 0 bytes

end Utf8

end HtmlDiagnostics
