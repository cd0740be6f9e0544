/-!
Reading bytes as UTF-8. Bytes that are no part of a character are grouped into
faults; strict reading reports the first of them and lenient reading puts one
replacement character in the place of each.
-/

namespace Runbook.Text.Utf8

inductive Reason
  | start
  | continuation
  | truncated
  deriving DecidableEq, Repr

def Reason.message : Reason → String
  | .start => "invalid start byte"
  | .continuation => "invalid continuation byte"
  | .truncated => "unexpected end of data"

/-- A run of bytes that is not part of a character. -/
structure Fault where
  position : Nat
  length : Nat
  byte : UInt8
  reason : Reason
  deriving DecidableEq, Repr

def Fault.message (fault : Fault) : String :=
  let digits := String.ofList
    [Nat.digitChar (fault.byte.toNat / 16), Nat.digitChar (fault.byte.toNat % 16)]
  let place :=
    if fault.length == 1 then s!"byte 0x{digits} in position {fault.position}"
    else s!"bytes in position {fault.position}-{fault.position + fault.length - 1}"
  s!"'utf-8' codec can't decode {place}: {fault.reason.message}"

inductive Piece
  | character (c : Char)
  | fault (fault : Fault)

def isTail (byte : UInt8) : Bool := 0x80 ≤ byte && byte ≤ 0xBF

/-- Whether `second` may follow the first byte of a character of three or four
bytes. The excluded values would encode a character in too many bytes, a
surrogate, or a code point that is too large. -/
def mayFollow (first second : UInt8) : Bool :=
  isTail second &&
    if first == 0xE0 then 0xA0 ≤ second
    else if first == 0xED then second < 0xA0
    else if first == 0xF0 then 0x90 ≤ second
    else if first == 0xF4 then second < 0x90
    else true

/-- Put together the payloads of the bytes of one character. -/
def assemble (lead : Nat) (tails : List UInt8) : Char :=
  Char.ofNat (tails.foldl (fun code byte => code * 64 + (byte.toNat - 0x80)) lead)

/-- Cut bytes into characters and faults; the first byte stands at `position`. -/
def pieces : (position : Nat) → List UInt8 → List Piece
  | _, [] => []
  | position, first :: rest =>
      let fault (length : Nat) (reason : Reason) : Piece :=
        .fault ⟨position, length, first, reason⟩
      if first < 0x80 then .character (Char.ofNat first.toNat) :: pieces (position + 1) rest
      else if first < 0xC2 || 0xF4 < first then fault 1 .start :: pieces (position + 1) rest
      else match rest with
      | [] => [fault 1 .truncated]
      | second :: rest₂ =>
        if !mayFollow first second then fault 1 .continuation :: pieces (position + 1) (second :: rest₂)
        else if first < 0xE0 then
          .character (assemble (first.toNat - 0xC0) [second]) :: pieces (position + 2) rest₂
        else match rest₂ with
        | [] => [fault 2 .truncated]
        | third :: rest₃ =>
          if !isTail third then fault 2 .continuation :: pieces (position + 2) (third :: rest₃)
          else if first < 0xF0 then
            .character (assemble (first.toNat - 0xE0) [second, third]) :: pieces (position + 3) rest₃
          else match rest₃ with
          | [] => [fault 3 .truncated]
          | fourth :: rest₄ =>
            if !isTail fourth then fault 3 .continuation :: pieces (position + 3) (fourth :: rest₄)
            else .character (assemble (first.toNat - 0xF0) [second, third, fourth]) ::
              pieces (position + 4) rest₄

def firstFault (bytes : List UInt8) : Fault :=
  ((pieces 0 bytes).findSome? fun
    | .fault fault => some fault
    | .character _ => none).getD ⟨0, 1, 0, .truncated⟩

/-- Read bytes that must be valid throughout. -/
def decode (bytes : ByteArray) : Except Fault String :=
  match String.fromUTF8? bytes with
  | some text => .ok text
  | none => .error (firstFault bytes.toList)

/-- Read bytes with U+FFFD in the place of each fault. -/
def decodeLenient (bytes : List UInt8) : List Char :=
  (pieces 0 bytes).map fun
    | .character c => c
    | .fault _ => '\uFFFD'

theorem decode_toUTF8 (text : String) : decode text.toUTF8 = .ok text := by
  have valid : text.toByteArray.IsValidUTF8 := text.isValidUTF8
  simp [decode, String.fromUTF8?, String.toUTF8, valid, String.fromUTF8]

end Runbook.Text.Utf8
