import Stencil.Text.Basic

/-!
# Text in bytes

Reads text from bytes in UTF-8 (`ofUtf8?`), and cuts it to a number of them (`takeBytes`). Every
character has one form, the shortest, and surrogates have none.
-/

namespace Stencil.Text

/-- As much of a text as fits into so many bytes. The replacement character stands for one that is
cut in two. -/
def takeBytes : (room : Nat) → Text → Text
  | _, [] => []
  | 0, _ => []
  | room, c :: s => if c.utf8Size ≤ room then c :: takeBytes (room - c.utf8Size) s else ['\ufffd']

/-- Whether a byte continues a character. -/
def isContinuation (b : UInt8) : Bool := 0x80 ≤ b && b < 0xC0

/-- The value that further bytes add to that of the first, six bits each. -/
def joinBits (first : Nat) (rest : List UInt8) : Nat :=
  rest.foldl (fun n b => 64 * n + (b.toNat - 0x80)) first

/-- The character with a code point, which must be no less than `least`. -/
def charFrom? (least n : Nat) : Option Char :=
  if least ≤ n ∧ n.isValidChar then some (Char.ofNat n) else none

/-- The text that bytes spell, if they do. -/
def ofUtf8? : List UInt8 → Option Text
  | [] => some []
  | a :: s =>
    if a < 0x80 then do
      let c ← charFrom? 0 a.toNat
      return c :: (← ofUtf8? s)
    else if a < 0xE0 then
      match s with
      | b :: s =>
        if isContinuation b then do
          let c ← charFrom? 0x80 (joinBits (a.toNat - 0xC0) [b])
          return c :: (← ofUtf8? s)
        else none
      | _ => none
    else if a < 0xF0 then
      match s with
      | b :: b' :: s =>
        if isContinuation b && isContinuation b' then do
          let c ← charFrom? 0x800 (joinBits (a.toNat - 0xE0) [b, b'])
          return c :: (← ofUtf8? s)
        else none
      | _ => none
    else if a < 0xF8 then
      match s with
      | b :: b' :: b'' :: s =>
        if isContinuation b && isContinuation b' && isContinuation b'' then do
          let c ← charFrom? 0x10000 (joinBits (a.toNat - 0xF0) [b, b', b''])
          return c :: (← ofUtf8? s)
        else none
      | _ => none
    else none

end Stencil.Text
