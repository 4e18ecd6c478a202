import OpenVrrp.Text

/-! The conversions of `vsprintf` that the daemon uses, with their arguments, and the room that
each of them can take. -/
namespace OpenVrrp

/-- A part of a format. The numbers are cut to the type of the conversion; `%s` may be given the
null pointer. -/
inductive Piece where
  | text (literal : Text)
  | hhu (n : Nat)
  | hu (n : Nat)
  | u (n : Nat)
  | llu (n : Nat)
  | hhX (b : UInt8)
  | s (string : Option Text)

/-- The digits of `%X`. -/
def hexDigit (n : Nat) : UInt8 := UInt8.ofNat (if n < 10 then 48 + n else 55 + n)

namespace Piece

def print : Piece → Text
  | text literal => literal
  | hhu n => decimal (n % 2 ^ 8)
  | hu n => decimal (n % 2 ^ 16)
  | u n => decimal (n % 2 ^ 32)
  | llu n => decimal (n % 2 ^ 64)
  | hhX b => [hexDigit (b.toNat / 16), hexDigit (b.toNat % 16)]
  | s none => ascii "(null)"
  | s (some string) => cString string

/-- The most that the piece prints. -/
def room : Piece → Nat
  | text literal => literal.length
  | hhu _ => 3
  | hu _ => 5
  | u _ => 10
  | llu _ => 20
  | hhX _ => 2
  | s none => 6
  | s (some string) => string.length

theorem decimal_room {n k : Nat} (bound : n < 10 ^ (k + 1)) : (decimal n).length ≤ k + 1 :=
  (decimal_length_le_iff n (Nat.succ_pos k)).mpr bound

theorem print_length (p : Piece) : p.print.length ≤ p.room := by
  cases p with
  | text literal => exact Nat.le_refl _
  | hhu n => exact decimal_room (by omega)
  | hu n => exact decimal_room (by omega)
  | u n => exact decimal_room (by omega)
  | llu n => exact decimal_room (by omega)
  | hhX b => exact Nat.le_refl _
  | s string =>
    cases string with
    | none => exact (by decide : (ascii "(null)").length ≤ 6)
    | some string => exact (List.takeWhile_prefix _).length_le

/-! The room of pieces, one after the other. -/

theorem rooms_cons (p : Piece) (pieces : List Piece) :
    ((p :: pieces).map room).sum = p.room + (pieces.map room).sum := by
  rw [List.map_cons, List.sum_cons]

theorem rooms_nil : (([] : List Piece).map room).sum = 0 := rfl

end Piece

def vsprintf (pieces : List Piece) : Text := pieces.flatMap Piece.print

theorem vsprintf_length (pieces : List Piece) :
    (vsprintf pieces).length ≤ (pieces.map Piece.room).sum := by
  induction pieces with
  | nil => exact Nat.le_refl _
  | cons p rest ih =>
    have first := p.print_length
    unfold vsprintf at ih ⊢
    rw [List.flatMap_cons, List.length_append, Piece.rooms_cons]
    omega

end OpenVrrp
